import SqlGateway.Proofs.Text.Runs
import SqlGateway.Text.Split

/-!
# What splitting finds

A text of joined pieces is taken apart into these pieces, and what is behind a separator is taken
apart as if it stood alone. Characters that are put at either end of a text belong to its first and
to its last piece, so a search in the pieces to which such characters make no difference finds what
it found without them.
-/

namespace SqlGateway.Text

variable {separator : Char} {cs front back : List Char}

/-! ## Cutting at the first separator -/

theorem cut?_eq_none_iff : cut? separator cs = none ↔ separator ∉ cs := by
  induction cs with
  | nil => exact iff_of_true rfl List.not_mem_nil
  | cons c cs ih =>
    rw [cut?, List.mem_cons, not_or, eq_comm (a := separator)]
    by_cases hc : c = separator
    · rw [if_pos hc]
      exact iff_of_false (Option.some_ne_none _) fun h ↦ h.1 hc
    · rw [if_neg hc, Option.map_eq_none_iff, ih, and_iff_right hc]

/-- A text is cut at a separator if there is none in front of it. -/
theorem cut?_append_cons (hfront : separator ∉ front) (cs : List Char) :
    cut? separator (front ++ separator :: cs) = some (front, cs) := by
  induction front with
  | nil => rw [List.nil_append, cut?, if_pos rfl]
  | cons c front ih =>
    obtain ⟨hc, hrest⟩ := List.ne_and_not_mem_of_not_mem_cons hfront
    rw [List.cons_append, cut?, if_neg hc.symm, ih hrest, Option.map_some]

theorem cut?_eq_some_iff {before behind : List Char} : cut? separator cs = some (before, behind) ↔
    cs = before ++ separator :: behind ∧ separator ∉ before := by
  constructor
  · intro hcut
    have hmem : separator ∈ cs := by
      by_contra hmem
      rw [cut?_eq_none_iff.mpr hmem] at hcut
      cases hcut
    obtain ⟨front, rest, rfl, hfront⟩ := List.eq_append_cons_of_mem hmem
    rw [cut?_append_cons hfront] at hcut
    obtain ⟨rfl, rfl⟩ := Prod.mk.inj (Option.some.inj hcut)
    exact ⟨rfl, hfront⟩
  · rintro ⟨rfl, hbefore⟩
    exact cut?_append_cons hbefore behind

/-- What is in front of the first separator, or everything if there is none. -/
theorem fst_cut?_getD (separator : Char) (cs : List Char) :
    ((cut? separator cs).getD (cs, [])).1 = cs.takeWhile (· != separator) := by
  cases hcut : cut? separator cs with
  | none =>
    have hmem := cut?_eq_none_iff.mp hcut
    refine (List.takeWhile_eq_self_iff.mpr fun c hc ↦ bne_iff_ne.mpr ?_).symm
    rintro rfl
    exact hmem hc
  | some found =>
    obtain ⟨before, behind⟩ := found
    obtain ⟨rfl, hbefore⟩ := cut?_eq_some_iff.mp hcut
    refine (takeWhile_run (fun c hc ↦ bne_iff_ne.mpr ?_) (forall_head?_cons ?_)).symm
    · rintro rfl
      exact hbefore hc
    · exact bne_self_eq_false separator

theorem mem_of_snd_cut?_getD {c : Char}
    (h : c ∈ ((cut? separator cs).getD (cs, [])).2) : c ∈ cs := by
  cases hcut : cut? separator cs with
  | none =>
    rw [hcut] at h
    exact absurd h List.not_mem_nil
  | some found =>
    obtain ⟨before, behind⟩ := found
    rw [hcut] at h
    rw [(cut?_eq_some_iff.mp hcut).1]
    exact List.mem_append_right _ (List.mem_cons_of_mem _ h)

/-! ## Splitting at every separator -/

theorem pieces_eq_splitOn (separator : Char) (cs : List Char) :
    pieces separator cs = cs.splitOn separator := by
  induction cs with
  | nil => rfl
  | cons c cs ih =>
    rw [pieces, ih, List.splitOn, List.splitOn, List.splitOnP_cons_eq_if_modifyHead]
    simp only [beq_iff_eq]
    cases hrest : cs.splitOnP (· == separator) with
    | nil => exact absurd hrest (List.splitOnP_ne_nil _ _)
    | cons piece pieces => rfl

theorem pieces_of_not_mem (h : separator ∉ cs) : pieces separator cs = [cs] := by
  rw [pieces_eq_splitOn]
  refine List.splitOnP_eq_singleton fun c hc ↦ beq_eq_false_iff_ne.mpr ?_
  rintro rfl
  exact h hc

theorem pieces_append_cons (separator : Char) (cs rest : List Char) :
    pieces separator (cs ++ separator :: rest) = pieces separator cs ++ pieces separator rest := by
  rw [pieces_eq_splitOn, pieces_eq_splitOn, pieces_eq_splitOn, List.splitOn_append_cons_self]

/-- What was joined is split again, whatever was joined behind it. -/
theorem pieces_intercalate {joined : List (List Char)} (hne : joined ≠ [])
    (hjoined : ∀ piece ∈ joined, separator ∉ piece) (later : List (List Char)) :
    ∃ rest, pieces separator ([separator].intercalate (joined ++ later)) = joined ++ rest := by
  induction joined with
  | nil => exact absurd rfl hne
  | cons first joined ih =>
    have hfirst := pieces_of_not_mem (hjoined first List.mem_cons_self)
    by_cases hlast : joined ++ later = []
    · obtain ⟨rfl, rfl⟩ := List.append_eq_nil_iff.mp hlast
      refine ⟨[], ?_⟩
      rw [List.append_nil, List.intercalate_singleton, hfirst]
    · rw [List.cons_append, List.intercalate_cons_of_ne_nil hlast, List.append_assoc,
        List.singleton_append, pieces_append_cons, hfirst]
      by_cases hmore : joined = []
      · subst hmore
        exact ⟨_, rfl⟩
      · have hmore' : ∀ piece ∈ joined, separator ∉ piece := fun piece hmem ↦
          hjoined piece (List.mem_cons_of_mem _ hmem)
        obtain ⟨rest, hrest⟩ := ih hmore hmore'
        exact ⟨rest, by rw [hrest, List.singleton_append, List.cons_append]⟩

theorem mem_intercalate {c : Char} {joined : List (List Char)} (hpiece : cs ∈ joined)
    (hc : c ∈ cs) (between : List Char) : c ∈ between.intercalate joined := by
  induction joined with
  | nil => exact absurd hpiece List.not_mem_nil
  | cons first joined ih =>
    by_cases hlast : joined = []
    · subst hlast
      rw [List.intercalate_singleton, ← List.mem_singleton.mp hpiece]
      exact hc
    · rw [List.intercalate_cons_of_ne_nil hlast, List.append_assoc, List.mem_append]
      rcases List.mem_cons.mp hpiece with rfl | hlater
      · exact .inl hc
      · exact .inr (List.mem_append_right _ (ih hlater))

/-- The characters of a piece are characters of the text. -/
theorem mem_of_mem_pieces {c : Char} {piece : List Char} (hpiece : piece ∈ pieces separator cs)
    (hc : c ∈ piece) : c ∈ cs := by
  have hmem := mem_intercalate hpiece hc [separator]
  rwa [pieces_eq_splitOn, List.intercalate_splitOn] at hmem

section search

variable {α : Type*} {f : List Char → Option α}

theorem findSome?_pieces_front (hfront : separator ∉ front) (hf : ∀ cs, f (front ++ cs) = f cs)
    (cs : List Char) :
    (pieces separator (front ++ cs)).findSome? f = (pieces separator cs).findSome? f := by
  by_cases hmem : separator ∈ cs
  · obtain ⟨first, rest, rfl, hfirst⟩ := List.eq_append_cons_of_mem hmem
    have hboth : separator ∉ front ++ first := fun h ↦ (List.mem_append.mp h).elim hfront hfirst
    rw [← List.append_assoc, pieces_append_cons, pieces_append_cons, pieces_of_not_mem hboth,
      pieces_of_not_mem hfirst, List.singleton_append, List.singleton_append, List.findSome?_cons,
      List.findSome?_cons, hf]
  · have hboth : separator ∉ front ++ cs := fun h ↦ (List.mem_append.mp h).elim hfront hmem
    rw [pieces_of_not_mem hboth, pieces_of_not_mem hmem, List.findSome?_cons, List.findSome?_cons,
      hf]

theorem findSome?_pieces_back (hback : separator ∉ back) (hf : ∀ cs, f (cs ++ back) = f cs)
    (cs : List Char) :
    (pieces separator (cs ++ back)).findSome? f = (pieces separator cs).findSome? f := by
  by_cases hmem : separator ∈ cs
  · -- The last piece begins behind the last separator.
    obtain ⟨last, front, hcs, hlast⟩ := List.eq_append_cons_of_mem (List.mem_reverse.mpr hmem)
    obtain rfl : cs = front.reverse ++ separator :: last.reverse := by
      rw [← List.reverse_inj, hcs]
      simp
    have hend : separator ∉ last.reverse := fun h ↦ hlast (List.mem_reverse.mp h)
    have hboth : separator ∉ last.reverse ++ back := fun h ↦ (List.mem_append.mp h).elim hend hback
    rw [List.append_assoc, List.cons_append, pieces_append_cons, pieces_append_cons,
      pieces_of_not_mem hboth, pieces_of_not_mem hend, List.findSome?_append,
      List.findSome?_append, List.findSome?_cons, List.findSome?_cons, hf]
  · have hboth : separator ∉ cs ++ back := fun h ↦ (List.mem_append.mp h).elim hmem hback
    rw [pieces_of_not_mem hboth, pieces_of_not_mem hmem, List.findSome?_cons, List.findSome?_cons,
      hf]

end search

end SqlGateway.Text
