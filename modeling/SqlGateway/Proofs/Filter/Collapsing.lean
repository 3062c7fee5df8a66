import Mathlib.Algebra.Group.Nat.Defs
import Mathlib.Data.List.Infix
import Mathlib.Logic.Function.Iterate
import SqlGateway.Filter
import SqlGateway.Proofs.Text.Runs

/-!
# Names with single underscores

The name of a bound parameter is made in passes: as long as two underscores stand side by side, all
such pairs are replaced from left to right. A pass does not look at what it has written, so it
leaves half as many underscores of a run, rounded up.

## Passes

A run of `k` underscores is one of `(k + 1) / 2` behind a pass, and so it is single behind `n`
passes exactly if `k ≤ 2 ^ n`. What bounds the number of passes is the longest run of the text, and
the logarithm of it.

## What is left

How many passes there were does not show in the text that is left, which can be said in one reading:
every run is written as one underscore, and all else stays.
-/

namespace SqlGateway.Filter

/-! ## Runs of underscores -/

/-- A text is taken apart at its runs of underscores, each of them as long as it can be. -/
@[elab_as_elim]
theorem run_induction {motive : List Char → Prop} (nil : motive [])
    (char : ∀ c cs, c ≠ '_' → motive cs → motive (c :: cs))
    (run : ∀ k rest, (∀ c ∈ rest.head?, c ≠ '_') → motive rest →
      motive (List.replicate (k + 1) '_' ++ rest)) (cs : List Char) : motive cs := by
  induction hlength : cs.length using Nat.strong_induction_on generalizing cs with
  | _ length ih =>
    subst hlength
    match cs with
    | [] => exact nil
    | c :: cs =>
      by_cases hc : c = '_'
      · subst hc
        have hrun : cs.takeWhile (· = '_') = List.replicate (cs.takeWhile (· = '_')).length '_' :=
          List.eq_replicate_of_mem fun d hd ↦ by simpa using List.mem_takeWhile_imp hd
        have hsplit : '_' :: cs = List.replicate ((cs.takeWhile (· = '_')).length + 1) '_' ++
            cs.dropWhile (· = '_') := by
          rw [List.replicate_succ, ← hrun, List.cons_append, List.takeWhile_append_dropWhile]
        rw [hsplit]
        refine run _ _ (fun d hd ↦ ?_) (ih _ ?_ _ rfl)
        · simpa using Text.not_of_mem_head?_dropWhile hd
        · exact Nat.lt_succ_of_le (List.dropWhile_sublist _).length_le
      · exact char c cs hc (ih _ (Nat.lt_succ_self _) _ rfl)

section run

variable {rest : List Char} (hends : ∀ c ∈ rest.head?, c ≠ '_')

include hends

theorem replicate_prefix_iff {k n : Nat} :
    List.replicate k '_' <+: List.replicate n '_' ++ rest ↔ k ≤ n := by
  induction n generalizing k with
  | zero =>
    cases k with
    | zero => simp
    | succ k =>
      refine iff_of_false ?_ (Nat.not_succ_le_zero k)
      rintro ⟨behind, hbehind⟩
      rw [List.replicate_zero, List.nil_append] at hbehind
      rw [← hbehind] at hends
      exact hends '_' rfl rfl
  | succ n ih =>
    cases k with
    | zero => simp
    | succ k =>
      rw [List.replicate_succ, List.replicate_succ, List.cons_append, List.cons_prefix_cons, ih,
        Nat.succ_le_succ_iff]
      exact and_iff_right rfl

/-- Underscores that stand side by side stand in a single run. -/
theorem replicate_infix_iff {k n : Nat} :
    List.replicate k '_' <:+: List.replicate n '_' ++ rest ↔
      k ≤ n ∨ List.replicate k '_' <:+: rest := by
  induction n with
  | zero =>
    rw [List.replicate_zero, List.nil_append]
    refine ⟨.inr, ?_⟩
    rintro (hk | hinfix)
    · rw [Nat.le_zero.mp hk]
      exact List.nil_infix
    · exact hinfix
  | succ n ih =>
    have hstarts := replicate_prefix_iff hends (k := k) (n := n + 1)
    rw [List.replicate_succ, List.cons_append] at hstarts
    rw [List.replicate_succ, List.cons_append, List.infix_cons_iff, hstarts, ih, ← or_assoc,
      or_iff_left_of_imp (Nat.le_succ_of_le ·)]

/-- What a pass makes of a run. -/
theorem replacePairs_run (k : Nat) : replacePairs (List.replicate k '_' ++ rest) =
    List.replicate ((k + 1) / 2) '_' ++ replacePairs rest := by
  induction k using Nat.twoStepInduction with
  | zero => rfl
  | one =>
    cases rest with
    | nil => rfl
    | cons c cs =>
      have hc : c ≠ '_' := hends c rfl
      rw [List.replicate_one, List.singleton_append, replacePairs]
      · rfl
      · intro cs' _ hcs
        exact hc (List.cons.inj hcs).1
  | more k ih =>
    have hhalf : (k + 2 + 1) / 2 = (k + 1) / 2 + 1 := by omega
    rw [List.replicate_succ, List.replicate_succ, List.cons_append, List.cons_append, replacePairs,
      ih, hhalf, List.replicate_succ, List.cons_append]

end run

theorem replacePairs_of_ne {c : Char} (hc : c ≠ '_') (cs : List Char) :
    replacePairs (c :: cs) = c :: replacePairs cs := by
  rw [replacePairs]
  intro _ hc'
  exact absurd hc' hc

theorem mem_replacePairs {c : Char} {cs : List Char} : c ∈ replacePairs cs ↔ c ∈ cs := by
  fun_induction replacePairs cs with
  | case1 cs ih => simp only [List.mem_cons, ih, or_self_left]
  | case2 d cs hne ih => simp only [List.mem_cons, ih]
  | case3 => exact Iff.rfl

theorem head?_replacePairs (cs : List Char) : (replacePairs cs).head? = cs.head? := by
  fun_induction replacePairs cs <;> rfl

theorem hasPair_iff {cs : List Char} : hasPair cs = true ↔ ['_', '_'] <:+: cs := by
  fun_induction hasPair cs with
  | case1 cs => exact iff_of_true rfl ⟨[], cs, rfl⟩
  | case2 c cs hne ih =>
    rw [ih, List.infix_cons_iff, or_iff_right]
    rintro ⟨behind, hbehind⟩
    obtain ⟨rfl, rfl⟩ := List.cons.inj hbehind
    exact hne behind rfl rfl
  | case3 => simp

/-! ## The number of passes -/

/-- No more than `n` underscores stand side by side. -/
def RunsWithin (n : Nat) (cs : List Char) : Prop :=
  ∀ k, List.replicate k '_' <:+: cs → k ≤ n

theorem runsWithin_cons {c : Char} (hc : c ≠ '_') (n : Nat) (cs : List Char) :
    RunsWithin n (c :: cs) ↔ RunsWithin n cs := by
  refine forall_congr' fun k ↦ imp_congr_left ?_
  rw [List.infix_cons_iff]
  constructor
  · rintro (hstarts | hinfix)
    · cases k with
      | zero => exact List.nil_infix
      | succ k =>
        rw [List.replicate_succ, List.cons_prefix_cons] at hstarts
        exact absurd hstarts.1.symm hc
    · exact hinfix
  · exact .inr

theorem runsWithin_run {rest : List Char} (hends : ∀ c ∈ rest.head?, c ≠ '_') (n k : Nat) :
    RunsWithin n (List.replicate k '_' ++ rest) ↔ k ≤ n ∧ RunsWithin n rest := by
  simp only [RunsWithin, replicate_infix_iff hends]
  constructor
  · intro h
    exact ⟨h k (.inl (Nat.le_refl k)), fun m hm ↦ h m (.inr hm)⟩
  · rintro ⟨hk, hrest⟩ m (hm | hm)
    · exact Nat.le_trans hm hk
    · exact hrest m hm

theorem not_hasPair_iff {cs : List Char} : hasPair cs = false ↔ RunsWithin 1 cs := by
  rw [← Bool.not_eq_true, hasPair_iff]
  constructor
  · intro hnone k hinfix
    refine Nat.le_of_not_lt fun hk ↦ hnone (List.IsInfix.trans ?_ hinfix)
    obtain ⟨m, rfl⟩ := Nat.exists_eq_add_of_le hk
    exact ⟨[], List.replicate m '_', List.replicate_append_replicate (n := 2)⟩
  · intro hruns hpair
    exact absurd (hruns 2 hpair) (by decide)

/-- A pass leaves runs within `n` of runs within twice as much, and of no others. -/
theorem runsWithin_replacePairs (n : Nat) (cs : List Char) :
    RunsWithin n (replacePairs cs) ↔ RunsWithin (2 * n) cs := by
  induction cs using run_induction with
  | nil => simp [replacePairs, RunsWithin]
  | char c cs hc ih => rw [replacePairs_of_ne hc, runsWithin_cons hc, runsWithin_cons hc, ih]
  | run k rest hends ih =>
    have hends' : ∀ c ∈ (replacePairs rest).head?, c ≠ '_' := by rwa [head?_replacePairs]
    have hhalf : (k + 1 + 1) / 2 ≤ n ↔ k + 1 ≤ 2 * n := by omega
    rw [replacePairs_run hends, runsWithin_run hends', runsWithin_run hends, ih, hhalf]

/-- **Passes end when the longest run has been halved away.** -/
theorem not_hasPair_iterate_iff (n : Nat) (cs : List Char) :
    hasPair (replacePairs^[n] cs) = false ↔ RunsWithin (2 ^ n) cs := by
  induction n generalizing cs with
  | zero => exact not_hasPair_iff
  | succ n ih => rw [Function.iterate_succ_apply, ih, runsWithin_replacePairs, Nat.pow_succ']

/-- What the passes do to a text: there is a last one, and each of them was called for. -/
theorem collapse_eq_iterate (cs : List Char) : ∃ passes, collapse cs = replacePairs^[passes] cs ∧
    hasPair (collapse cs) = false ∧ ∀ i < passes, hasPair (replacePairs^[i] cs) = true := by
  fun_induction collapse cs with
  | case1 cs hpair ih =>
    obtain ⟨passes, heq, hlast, hbefore⟩ := ih
    refine ⟨passes + 1, heq, hlast, fun i hi ↦ ?_⟩
    cases i with
    | zero => exact hpair
    | succ i => exact hbefore i (Nat.lt_of_succ_lt_succ hi)
  | case2 cs hpair =>
    exact ⟨0, rfl, eq_false_of_ne_true hpair, fun i hi ↦ absurd hi (Nat.not_lt_zero i)⟩

theorem mem_collapse {c : Char} {cs : List Char} : c ∈ collapse cs ↔ c ∈ cs := by
  fun_induction collapse cs with
  | case1 cs h ih => rw [ih, mem_replacePairs]
  | case2 cs h => exact Iff.rfl

theorem head?_collapse (cs : List Char) : (collapse cs).head? = cs.head? := by
  fun_induction collapse cs with
  | case1 cs h ih => rw [ih, head?_replacePairs]
  | case2 cs h => rfl

/-! ## What is left -/

/-- The second text is the first one with every run of underscores written as one. -/
inductive Squeezed : List Char → List Char → Prop where
  | nil : Squeezed [] []
  | char {c : Char} {cs left : List Char} (hc : c ≠ '_') (h : Squeezed cs left) :
      Squeezed (c :: cs) (c :: left)
  | run (k : Nat) {rest left : List Char} (hends : ∀ c ∈ rest.head?, c ≠ '_')
      (h : Squeezed rest left) : Squeezed (List.replicate (k + 1) '_' ++ rest) ('_' :: left)

/-- A text in which an underscore is left out if another one follows. -/
def squeeze : List Char → List Char
  | [] => []
  | c :: cs => if c = '_' ∧ cs.head? = some '_' then squeeze cs else c :: squeeze cs

theorem squeeze_of_ne {c : Char} (hc : c ≠ '_') (cs : List Char) :
    squeeze (c :: cs) = c :: squeeze cs := by
  rw [squeeze, if_neg fun h ↦ hc h.1]

theorem squeeze_pair (cs : List Char) : squeeze ('_' :: '_' :: cs) = squeeze ('_' :: cs) := by
  rw [squeeze, if_pos ⟨rfl, rfl⟩]

theorem squeeze_run {rest : List Char} (hends : ∀ c ∈ rest.head?, c ≠ '_') (k : Nat) :
    squeeze (List.replicate (k + 1) '_' ++ rest) = '_' :: squeeze rest := by
  induction k with
  | zero =>
    rw [List.replicate_one, List.singleton_append, squeeze, if_neg]
    rintro ⟨-, hrest⟩
    exact hends '_' hrest rfl
  | succ k ih => rwa [List.replicate_succ, List.replicate_succ, List.cons_append, List.cons_append,
      squeeze_pair, ← List.cons_append, ← List.replicate_succ]

theorem squeezed_squeeze (cs : List Char) : Squeezed cs (squeeze cs) := by
  induction cs using run_induction with
  | nil => exact .nil
  | char c cs hc ih =>
    rw [squeeze_of_ne hc]
    exact .char hc ih
  | run k rest hends ih =>
    rw [squeeze_run hends]
    exact .run k hends ih

/-- There is only one way to write every run as one underscore. -/
theorem Squeezed.eq_squeeze {cs left : List Char} (h : Squeezed cs left) : left = squeeze cs := by
  induction h with
  | nil => rfl
  | char hc h ih => rw [squeeze_of_ne hc, ih]
  | run k hends h ih => rw [squeeze_run hends, ih]

/-- A pass does not change what is left in the end. -/
theorem squeeze_replacePairs (cs : List Char) : squeeze (replacePairs cs) = squeeze cs := by
  induction cs using run_induction with
  | nil => rfl
  | char c cs hc ih => rw [replacePairs_of_ne hc, squeeze_of_ne hc, squeeze_of_ne hc, ih]
  | run k rest hends ih =>
    have hends' : ∀ c ∈ (replacePairs rest).head?, c ≠ '_' := by rwa [head?_replacePairs]
    have hhalf : (k + 1 + 1) / 2 = k / 2 + 1 := by omega
    rw [replacePairs_run hends, hhalf, squeeze_run hends', squeeze_run hends, ih]

theorem squeeze_of_not_hasPair {cs : List Char} (h : hasPair cs = false) : squeeze cs = cs := by
  induction cs using run_induction with
  | nil => rfl
  | char c cs hc ih =>
    rw [not_hasPair_iff, runsWithin_cons hc] at h
    rw [squeeze_of_ne hc, ih (not_hasPair_iff.mpr h)]
  | run k rest hends ih =>
    rw [not_hasPair_iff, runsWithin_run hends] at h
    obtain rfl : k = 0 := Nat.le_zero.mp (Nat.le_of_succ_le_succ h.1)
    rw [squeeze_run hends, ih (not_hasPair_iff.mpr h.2)]
    rfl

/-- **The passes write every run of underscores as one.** -/
theorem collapse_eq_squeeze (cs : List Char) : collapse cs = squeeze cs := by
  fun_induction collapse cs with
  | case1 cs h ih => rw [ih, squeeze_replacePairs]
  | case2 cs h => exact (squeeze_of_not_hasPair (eq_false_of_ne_true h)).symm

/-- More underscores beside one make no difference. -/
theorem squeeze_more (front : List Char) (k : Nat) (back : List Char) :
    squeeze (front ++ (List.replicate k '_' ++ '_' :: back)) = squeeze (front ++ '_' :: back) := by
  induction front with
  | nil =>
    induction k with
    | zero => rfl
    | succ k ih =>
      rw [List.nil_append, List.nil_append] at ih ⊢
      cases k with
      | zero => exact squeeze_pair back
      | succ k =>
        rw [List.replicate_succ, List.replicate_succ, List.cons_append, List.cons_append,
          squeeze_pair, ← List.cons_append, ← List.replicate_succ, ih]
  | cons c front ih =>
    have hhead : (front ++ (List.replicate k '_' ++ '_' :: back)).head? =
        (front ++ '_' :: back).head? := by
      rw [List.head?_append, List.head?_append, List.head?_append]
      cases k with
      | zero => rfl
      | succ k => rfl
    rw [List.cons_append, List.cons_append, squeeze, squeeze, hhead, ih]

theorem squeeze_append {front : List Char} (h : '_' ∉ front) (back : List Char) :
    squeeze (front ++ back) = front ++ squeeze back := by
  induction front with
  | nil => rfl
  | cons c front ih =>
    obtain ⟨hc, hfront⟩ := not_or.mp (mt List.mem_cons.mpr h)
    rw [List.cons_append, squeeze_of_ne (Ne.symm hc), ih hfront, List.cons_append]

/-! ## Names -/

section boundName

variable {source param : String}

theorem toList_boundName (source param : String) :
    (boundName source param).toList = squeeze (source.toList ++ '_' :: param.toList) := by
  rw [boundName, String.toList_ofList, collapse_eq_squeeze]

theorem mem_boundName {c : Char} :
    c ∈ (boundName source param).toList ↔ c ∈ source.toList ∨ c = '_' ∨ c ∈ param.toList := by
  rw [boundName, String.toList_ofList, mem_collapse, List.mem_append, List.mem_cons]

/-- Underscores at the joint of a name. -/
def underscores (k : Nat) : String := String.ofList (List.replicate k '_')

theorem boundName_append_underscores (k : Nat) :
    boundName (source ++ underscores k) param = boundName source param := by
  refine String.toList_inj.mp ?_
  rw [toList_boundName, toList_boundName, String.toList_append, underscores, String.toList_ofList,
    List.append_assoc, squeeze_more]

theorem boundName_underscores_append (k : Nat) :
    boundName source (underscores k ++ param) = boundName source param := by
  have hjoint : '_' :: (List.replicate k '_' ++ param.toList) =
      List.replicate k '_' ++ '_' :: param.toList := by
    rw [← List.cons_append, ← List.replicate_succ, List.replicate_succ', List.append_assoc]
    rfl
  refine String.toList_inj.mp ?_
  rw [toList_boundName, toList_boundName, String.toList_append, underscores, String.toList_ofList,
    hjoint, squeeze_more]

/-- Names without underscores are joined as they are. -/
theorem toList_boundName_of_plain (hsource : '_' ∉ source.toList) (hparam : '_' ∉ param.toList) :
    (boundName source param).toList = source.toList ++ '_' :: param.toList := by
  have hends : ∀ c ∈ param.toList.head?, c ≠ '_' := fun c hc heq ↦
    hparam (heq ▸ List.mem_of_mem_head? hc)
  have hjoint := squeeze_run hends 0
  have hbehind := squeeze_append hparam []
  rw [List.append_nil, squeeze, List.append_nil] at hbehind
  rw [List.replicate_one, List.singleton_append] at hjoint
  rw [toList_boundName, squeeze_append hsource, hjoint, hbehind]

end boundName

/-- **The loop that makes a bound name ends, and leaves every run of underscores as one.** It makes
`n` passes or less exactly if no run is longer than `2 ^ n`. The name has an underscore and no two
of them side by side, it does not depend on how many there are at the joint, and names without
underscores are joined in different ways if they differ. -/
theorem boundName_squeezed (source param : String) :
    let joined := source.toList ++ '_' :: param.toList
    let name := (boundName source param).toList
    ((∃ passes, name = replacePairs^[passes] joined ∧ hasPair name = false ∧
        ∀ i < passes, hasPair (replacePairs^[i] joined) = true) ∧
      ∀ n, hasPair (replacePairs^[n] joined) = false ↔
        ∀ k, List.replicate k '_' <:+: joined → k ≤ 2 ^ n) ∧
    (∀ left, Squeezed joined left ↔ left = name) ∧
    ¬['_', '_'] <:+: name ∧ '_' ∈ name ∧
    (∀ k, boundName (source ++ underscores k) param = boundName source param ∧
      boundName source (underscores k ++ param) = boundName source param) ∧
    ∀ source' param' : String,
      (∀ part ∈ [source, param, source', param'], '_' ∉ part.toList) →
      boundName source param = boundName source' param' → source = source' ∧ param = param' := by
  intro joined name
  have hname : name = collapse joined := String.toList_ofList
  obtain ⟨passes, heq, hlast, hbefore⟩ := collapse_eq_iterate joined
  rw [← hname] at heq hlast
  refine ⟨⟨⟨passes, heq, hlast, hbefore⟩, fun n ↦ not_hasPair_iterate_iff n joined⟩, ?_, ?_, ?_, ?_,
    ?_⟩
  · intro left
    rw [hname, collapse_eq_squeeze]
    refine ⟨Squeezed.eq_squeeze, ?_⟩
    rintro rfl
    exact squeezed_squeeze joined
  · rw [← hasPair_iff, hlast]
    exact Bool.false_ne_true
  · exact mem_boundName.mpr (.inr (.inl rfl))
  · intro k
    exact ⟨boundName_append_underscores k, boundName_underscores_append k⟩
  · intro source' param' hplain hsame
    have hsource : '_' ∉ source.toList := hplain source (by simp)
    have hparam : '_' ∉ param.toList := hplain param (by simp)
    have hjoined : source.toList ++ '_' :: param.toList =
        source'.toList ++ '_' :: param'.toList := by
      rw [← toList_boundName_of_plain hsource hparam, hsame,
        toList_boundName_of_plain (hplain source' (by simp)) (hplain param' (by simp))]
    obtain ⟨heq, -, heq'⟩ := (List.append_cons_inj_of_notMem hsource hparam).mp hjoined
    exact ⟨String.toList_inj.mp heq, String.toList_inj.mp heq'⟩

/-- Three underscores at the joint take two passes, and a joint elsewhere shows. -/
theorem boundName_squeezed_users :
    let plain := ["Users", "Name", "User", "sName"]
    hasPair (replacePairs^[1] ("Users__".toList ++ '_' :: "Name".toList)) = true ∧
    boundName ("Users" ++ underscores 2) "Name" = boundName "Users" "Name" ∧
    (∀ part ∈ plain, '_' ∉ part.toList) ∧ boundName "Users" "Name" ≠ boundName "User" "sName" := by
  intro plain
  have hplain : ∀ part ∈ plain, '_' ∉ part.toList := by decide
  obtain ⟨-, -, -, -, hmore, hinjective⟩ := boundName_squeezed "Users" "Name"
  refine ⟨by decide, (hmore 2).1, hplain, fun hsame ↦ ?_⟩
  exact absurd (hinjective "User" "sName" hplain hsame).1 (by decide)

end SqlGateway.Filter
