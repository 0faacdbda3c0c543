import Descent.Proofs.HandedBack
import Descent.Proofs.Sequence

/-!
# The text of a whole and the texts of its pieces

A slice of a repetition gives one text. A repetition of slices gives a text for each turn, and these
put together are the same one; and the texts of two slices, one behind the other, are that of both
parts (`slices_join`).

The two sides run the same parser at the same places. But the whole runs it in slicing mode
throughout, and reads a text once, where it has started; the pieces switch back and forth, and read
a text at every turn. So the chain of turns that the whole makes is turned into one of the pieces
(`Chain.pieces`), which ends for the same reason since it is as long and its turns consume as much.
What is left is that neighbouring texts add up (`Chain.exists_texts`).
-/

namespace Descent

variable {α β : Type}

theorem Location.Valid.text_zero {l : Location} (h : l.Valid) : l.text 0 = "" :=
  h.text_eq (List.nil_append l.behind).symm

namespace Parser

/-! ### Slices -/

section Slice

variable {p : Parser α} {s : State}

theorem slice_of_error {fault : Fault} (run : p (s.withSlicing true) = .error fault) :
    p.slice s = .error fault := by
  rw [slice, run]
  rfl

theorem slice_of_failure {e : ParseError} {committed : Bool}
    (run : p (s.withSlicing true) = .ok (.failure e committed)) :
    p.slice s = .ok (.failure e committed) := by
  rw [slice, run]
  rfl

theorem slice_of_success {y : Yield α} {n : Nat}
    (run : p (s.withSlicing true) = .ok (.success y n)) :
    p.slice s = .ok (.success (.text id) n) := by
  rw [slice, run]
  rfl

theorem slice_eq_success_iff {z : Yield String} {n : Nat} :
    p.slice s = .ok (.success z n) ↔
      z = .text id ∧ ∃ y, p (s.withSlicing true) = .ok (.success y n) := by
  constructor
  · intro h
    rcases run : p (s.withSlicing true) with fault | ⟨y, m⟩ | ⟨e, committed⟩
    · cases (slice_of_error run).symm.trans h
    · cases (slice_of_success run).symm.trans h
      exact ⟨rfl, y, rfl⟩
    · cases (slice_of_failure run).symm.trans h
  · rintro ⟨rfl, y, run⟩
    exact slice_of_success run

theorem readAt_of_success {y : Yield α} {n : Nat} {a : α} (run : p s = .ok (.success y n))
    (ha : y.read s n = .ok a) : p.readAt s = .ok (.value a n) :=
  readAt_eq_value_iff.2 ⟨y, run, ha⟩

theorem readAt_of_failure {e : ParseError} {committed : Bool}
    (run : p s = .ok (.failure e committed)) : p.readAt s = .ok (.failure e committed) := by
  rw [readAt, run]
  rfl

theorem readAt_of_error {fault : Fault} (run : p s = .error fault) : p.readAt s = .error fault := by
  rw [readAt, run]
  rfl

/-- The text of a slice, read where the slice has started. -/
theorem readAt_slice_of_success (hs : s.location.Valid) {y : Yield α} {n : Nat}
    (run : p (s.withSlicing true) = .ok (.success y n)) (hn : (s.location.jump n).Valid) :
    p.slice.readAt s = .ok (.value (s.location.text n) n) :=
  readAt_of_success (slice_of_success run) (Yield.read_eq hs hn rfl)

theorem exists_slice_eq_ok (h : ∃ o, p (s.withSlicing true) = .ok o) : ∃ o, p.slice s = .ok o := by
  obtain ⟨⟨y, n⟩ | ⟨e, committed⟩, run⟩ := h
  · exact ⟨_, slice_of_success run⟩
  · exact ⟨_, slice_of_failure run⟩

/-- With slicing off, an answer can be read. -/
theorem Stays.exists_readAt_eq_ok (hp : p.Stays) (hs : s.location.Valid) (hoff : s.sliced = false)
    (h : ∃ o, p s = .ok o) : ∃ r, p.readAt s = .ok r := by
  obtain ⟨⟨y, n⟩ | ⟨e, committed⟩, run⟩ := h
  · obtain ⟨a, ha⟩ := hp.exists_readAt hs hoff run
    exact ⟨_, ha⟩
  · exact ⟨_, readAt_of_failure run⟩

/-- A slice runs its parser in slicing mode only. -/
theorem SlicesWithin.stays_slice (hp : p.SlicesWithin Location.Valid) : p.slice.Stays := by
  intro s z n hs h
  obtain ⟨rfl, y, run⟩ := slice_eq_success_iff.1 h
  exact ⟨hp (s.withSlicing true) y n rfl hs run, nofun⟩

end Slice

end Parser

/-! ### The pieces of a repetition -/

/-- The turn, made with slicing off by the parser's slice. -/
def Turn.piece (turn : Turn α) : Turn String where
  start := turn.start.withSlicing false
  yield := .text id
  consumed := turn.consumed

namespace Turn

variable {turns : List (Turn α)}

@[simp]
theorem total_map_piece : total (turns.map piece) = total turns := by
  induction turns with
  | nil => rfl
  | cons turn turns ih => rw [List.map_cons, total_cons, total_cons, ih, piece]

/-- The pieces are empty where the turns are. -/
theorem forall_map_piece_iff :
    (∀ turn ∈ turns.map piece, turn.consumed ≠ 0) ↔ ∀ turn ∈ turns, turn.consumed ≠ 0 := by
  rw [List.forall_mem_map]
  rfl

end Turn

namespace Bounds

variable {b : Bounds} {turns : List (Turn α)}

theorem continues_map_piece_iff : b.Continues (turns.map Turn.piece) ↔ b.Continues turns := by
  constructor
  · rintro ⟨bounded, unbounded⟩
    rw [List.length_map] at bounded
    exact ⟨bounded, fun hnone ↦ Turn.forall_map_piece_iff.1 (unbounded hnone)⟩
  · rintro ⟨bounded, unbounded⟩
    rw [← List.length_map Turn.piece] at bounded
    exact ⟨bounded, fun hnone ↦ Turn.forall_map_piece_iff.2 (unbounded hnone)⟩

theorem Admits.map_piece (h : b.Admits turns) : b.Admits (turns.map Turn.piece) where
  bounded k hk := by
    rw [List.length_map]
    exact h.bounded k hk
  unbounded hnone := by
    rw [← List.map_dropLast]
    exact Turn.forall_map_piece_iff.2 (h.unbounded hnone)

end Bounds

namespace Parser

variable {p : Parser α} {q : Parser β} {b : Bounds} {s t : State} {turns : List (Turn α)}

/-- Turns in slicing mode are turns of the slice, whatever the mode. -/
theorem Chain.pieces (h : p.Chain s turns t) (hon : s.sliced = true) :
    p.slice.Chain (s.withSlicing false) (turns.map Turn.piece) (t.withSlicing false) := by
  induction h with
  | nil s => exact .nil _
  | @cons s t y n turns run rest ih =>
    have hback : (s.withSlicing false).withSlicing true = s := hon ▸ s.withSlicing_sliced
    exact .cons (slice_of_success (hback.symm ▸ run)) (ih hon)

theorem Stops.pieces (h : p.Stops b turns t) (hon : t.sliced = true) :
    p.slice.Stops b (turns.map Turn.piece) (t.withSlicing false) := by
  have hback : (t.withSlicing false).withSlicing true = t := hon ▸ t.withSlicing_sliced
  cases h with
  | full most => exact .full (by rwa [List.length_map])
  | empty most turn last consumed =>
    exact .empty most turn.piece (by rw [List.getLast?_map, last]; rfl) consumed
  | failed e run => exact .failed e (slice_of_failure (hback.symm ▸ run))

/-- **Neighbouring texts add up.** -/
theorem Chain.exists_texts {pieces : List (Turn String)} (h : p.slice.Chain s pieces t)
    (hp : p.SlicesWithin Location.Valid) (hs : s.location.Valid) :
    ∃ texts, pieces.mapM Turn.read = .ok texts ∧
      String.join texts = s.location.text (Turn.total pieces) := by
  induction h with
  | nil s => exact ⟨[], rfl, by rw [Turn.total_nil, hs.text_zero, String.join_nil]⟩
  | @cons s t z n turns run rest ih =>
    obtain ⟨rfl, -⟩ := slice_eq_success_iff.1 run
    have hn : (s.location.jump n).Valid := (hp.stays_slice s _ n hs run).1
    have hend : (s.location.jump (n + Turn.total turns)).Valid := by
      have ht : t.location.Valid := rest.valid hp.stays_slice hn
      rw [rest.end_eq] at ht
      simpa using ht
    obtain ⟨texts, htexts, hjoin⟩ := ih hn
    have hread : (Yield.text id).read s n = .ok (s.location.text n) := Yield.read_eq hs hn rfl
    refine ⟨s.location.text n :: texts, ?_, ?_⟩
    · rw [List.mapM_cons, Turn.read, hread, htexts]
      rfl
    · rw [String.join_cons, hjoin, Turn.total_cons, hs.text_add hn hend]
      rfl

/-- The slice of a repetition is what the slices of its turns are together. -/
theorem readAt_slice_repeated (hp : p.SlicesWithin Location.Valid) (hb : b.Fits)
    (hs : s.location.Valid) (hoff : s.sliced = false) :
    (p.repeated b).slice.readAt s =
      Reading.map String.join <$> (p.slice.repeated b).readAt s := by
  have hcarries : p.Carries fun s ↦ s.sliced = true ∧ s.location.Valid :=
    hp.carries fun _ ↦ Location.Valid.inside
  obtain ⟨turns, t, hchain, hends⟩ := (hcarries.repeated_eq_iff hb (s := s.withSlicing true)
    ⟨rfl, hs⟩ (x := p.repeated b (s.withSlicing true))).1 rfl
  obtain ⟨hon, ht⟩ := hchain.carries hcarries ⟨rfl, hs⟩
  have hstart : (s.withSlicing true).withSlicing false = s := hoff ▸ s.withSlicing_sliced
  have hend : (t.withSlicing false).withSlicing true = t := hon ▸ t.withSlicing_sliced
  have hpieces : p.slice.Chain s (turns.map Turn.piece) (t.withSlicing false) :=
    hstart ▸ hchain.pieces rfl
  -- Whatever ends the chain of the whole ends that of the pieces.
  have hsame : ∀ x, p.slice.Concludes b s.sliced (turns.map Turn.piece) (t.withSlicing false) x →
      p.slice.repeated b s = x := fun x hx ↦
    (repeated_eq_iff hp.stays_slice hb hs).2 ⟨_, _, hpieces, hx⟩
  generalize hwhole : p.repeated b (s.withSlicing true) = x at hends
  cases hends with
  | success admits enough stops gathers =>
    obtain ⟨texts, htexts, hjoin⟩ := hpieces.exists_texts hp hs
    have hgathers : (Yield.value texts).Gathers s.sliced (turns.map Turn.piece) :=
      ⟨fun hsliced ↦ (nomatch hoff.symm.trans hsliced), fun _ ↦ ⟨texts, htexts, rfl⟩⟩
    have henough : b.Continues (turns.map Turn.piece) →
        b.least ≤ (turns.map Turn.piece).length := fun continues ↦ by
      rw [List.length_map]
      exact enough (Bounds.continues_map_piece_iff.1 continues)
    have hparts := hsame _ (.success admits.map_piece henough (stops.pieces hon) hgathers)
    have hn : (s.location.jump (Turn.total turns)).Valid := by
      rw [hchain.end_eq] at ht
      exact ht
    rw [readAt_slice_of_success hs hwhole hn, readAt_of_success hparts rfl]
    show _ = Except.ok (Reading.value (String.join texts) _)
    rw [hjoin, Turn.total_map_piece]
  | failure continues run final =>
    have hparts := hsame _ (.failure (Bounds.continues_map_piece_iff.2 continues)
      (slice_of_failure (hend.symm ▸ run)) (by rwa [List.length_map]))
    rw [readAt_of_failure (slice_of_failure hwhole), readAt_of_failure hparts]
    rfl
  | fault continues run =>
    have hparts := hsame _ (.fault (Bounds.continues_map_piece_iff.2 continues)
      (slice_of_error (hend.symm ▸ run)))
    rw [readAt_of_error (slice_of_error hwhole), readAt_of_error hparts]
    rfl

/-! ### The pieces of a sequence -/

/-- The slice of a sequence is what the slices of its parts are together. -/
theorem readAt_slice_product (hp : p.SlicesWithin Location.Valid)
    (hq : q.SlicesWithin Location.Valid) (hs : s.location.Valid) (hoff : s.sliced = false) :
    (p.product q).slice.readAt s = (p.slice.map2 q.slice (· ++ ·)).readAt s := by
  rcases run : p (s.withSlicing true) with fault | ⟨y, m⟩ | ⟨e, committed⟩
  · have hwhole : p.product q (s.withSlicing true) = .error fault := map2_of_error run
    have hparts : p.slice.map2 q.slice (· ++ ·) s = .error fault :=
      map2_of_error (slice_of_error run)
    rw [readAt_of_error (slice_of_error hwhole), readAt_of_error hparts]
  · have hm : (s.location.jump m).Valid := hp (s.withSlicing true) y m rfl hs run
    rcases run' : q ((s.jump m).withSlicing true) with fault | ⟨z, n⟩ | ⟨e, committed⟩
    · have hwhole : p.product q (s.withSlicing true) = .error fault :=
        map2_of_second_error (s := s.withSlicing true) hm run run'
      have hparts : p.slice.map2 q.slice (· ++ ·) s = .error fault :=
        map2_of_second_error hm (slice_of_success run) (slice_of_error run')
      rw [readAt_of_error (slice_of_error hwhole), readAt_of_error hparts]
    · have hn : ((s.jump m).location.jump n).Valid :=
        hq ((s.jump m).withSlicing true) z n rfl hm run'
      have hend : (s.location.jump (m + n)).Valid := by simpa using hn
      obtain ⟨w, hpair, -⟩ := Outcome.exists_pair (s := s.withSlicing true) Prod.mk hs hm hn nofun
        (y := y) (z := z)
      have hwhole : p.product q (s.withSlicing true) = .ok (.success w (m + n)) :=
        (map2_of_successes (s := s.withSlicing true) hm run run').trans hpair
      have hparts : p.slice.map2 q.slice (· ++ ·) s =
          .ok (.success (.value (s.location.text m ++ (s.jump m).location.text n)) (m + n)) :=
        map2_of_reads hp.stays_slice hq.stays_slice hs hoff (readAt_slice_of_success hs run hm)
          (readAt_slice_of_success hm run' hn)
      rw [readAt_slice_of_success hs hwhole hend, readAt_of_success hparts rfl,
        hs.text_add hm hend]
      rfl
    · have hwhole : p.product q (s.withSlicing true) = .ok (.failure e committed) :=
        map2_of_second_failure (s := s.withSlicing true) hm run run'
      have hparts : p.slice.map2 q.slice (· ++ ·) s = .ok (.failure e committed) :=
        map2_of_second_failure hm (slice_of_success run) (slice_of_failure run')
      rw [readAt_of_failure (slice_of_failure hwhole), readAt_of_failure hparts]
  · have hwhole : p.product q (s.withSlicing true) = .ok (.failure e committed) :=
      map2_of_failure run
    have hparts : p.slice.map2 q.slice (· ++ ·) s = .ok (.failure e committed) :=
      map2_of_failure (slice_of_failure run)
    rw [readAt_of_failure (slice_of_failure hwhole), readAt_of_failure hparts]

/-! ### Both -/

/-- **A text is made of its pieces.** With slicing off, at a valid place, let the successes of both
parsers in slicing mode lead to valid places. Then

* what the slice of a repetition reads is what the repetition of the slice reads, with its texts put
  together in order, over the same length, or else the same failure. This holds within all bounds,
  as those of `many`, of `many1` and of `listOfN` for any machine word;
* what the slice of a sequence reads is what the slices of its parts read one behind the other, with
  the second text put behind the first one, or else the same failure;
* if the parsers answer at all valid places in slicing mode, then all of these do. -/
theorem slices_join (hp : p.SlicesWithin Location.Valid) (hq : q.SlicesWithin Location.Valid)
    (hs : s.location.Valid) (hoff : s.sliced = false) :
    (∀ b : Bounds, b.Fits → (p.repeated b).slice.readAt s =
      Reading.map String.join <$> (p.slice.repeated b).readAt s) ∧
    (p.product q).slice.readAt s = (p.slice.map2 q.slice (· ++ ·)).readAt s ∧
    ((∀ t : State, t.sliced = true → t.location.Valid → ∃ o, p t = .ok o) →
      (∀ b : Bounds, b.Fits → ∃ r, (p.repeated b).slice.readAt s = .ok r) ∧
      ((∀ t : State, t.sliced = true → t.location.Valid → ∃ o, q t = .ok o) →
        ∃ r, (p.product q).slice.readAt s = .ok r)) := by
  refine ⟨fun b hb ↦ readAt_slice_repeated hp hb hs hoff, readAt_slice_product hp hq hs hoff,
    fun hanswers ↦ ⟨fun b hb ↦ ?_, fun hanswers' ↦ ?_⟩⟩
  · have hpieces : ∃ o, p.slice.repeated b s = .ok o :=
      exists_repeated_eq_ok hp.stays_slice hb hs fun t ht _ ↦
        exists_slice_eq_ok (hanswers (t.withSlicing true) rfl ht)
    obtain ⟨r, hr⟩ := (hp.stays_slice.repeated hb).exists_readAt_eq_ok hs hoff hpieces
    exact ⟨r.map String.join, by rw [readAt_slice_repeated hp hb hs hoff, hr]; rfl⟩
  · have hpieces : ∃ o, p.slice.map2 q.slice (· ++ ·) s = .ok o :=
      exists_map2_eq_ok hp.stays_slice hq.stays_slice hs
        (exists_slice_eq_ok (hanswers (s.withSlicing true) rfl hs)) fun y m run ↦
          exists_slice_eq_ok (hanswers' ((s.jump m).withSlicing true) rfl
            (hp.stays_slice s y m hs run).1)
    obtain ⟨r, hr⟩ :=
      (hp.stays_slice.map2 hq.stays_slice (· ++ ·)).exists_readAt_eq_ok hs hoff hpieces
    exact ⟨r, by rw [readAt_slice_product hp hq hs hoff, hr]⟩

/-- Two accented letters in front of a plain one, in pieces and as a whole. -/
theorem accented_slices_join :
    (literal "é").slice.many.readAt (.start "éébé") = .ok (.value ["é", "é"] 4) ∧
    (literal "é").many.slice.readAt (.start "éébé") = .ok (.value "éé" 4) ∧
    ((literal "é").product (literal "b")).slice.readAt (.start "éébé") =
      ((literal "é").slice.map2 (literal "b").slice (· ++ ·)).readAt (.start "éébé") := by
  have hjoin := slices_join (Safe.literal "é").stays.slicesWithin
    (Safe.literal "b").stays.slicesWithin (s := .start "éébé")
    (Location.valid_start (by decide)) rfl
  have hpieces : (literal "é").slice.many.readAt (.start "éébé") = .ok (.value ["é", "é"] 4) := rfl
  refine ⟨hpieces, ?_, hjoin.2.1⟩
  have hwhole := hjoin.1 _ Bounds.meetable_many.fits
  exact hwhole.trans (congrArg (Reading.map String.join <$> ·) hpieces)

end Parser

end Descent
