import SqlGateway.Proofs.Template.Filling
import SqlGateway.Proofs.Text.Trimming

/-!
# Taking a text apart at a token

A token is found wherever it stands, whatever stands around it. A search that begins in front of it,
at a brace that opens nothing, stops at the brace of the token at the latest, for a token has only
letters between its braces. So a text with a token in it is filled part by part: what stands in
front, the token, and what stands behind. What is put in place of the token goes into the result as
it is.

## Main results

* `Template.segments_append_brace`: a text can be cut in front of any opening brace.
* `Template.fill_around_token`: filling and listing a text with a token in it.
-/

namespace SqlGateway.Template

variable {cs name : List Char}

/-! ## Cutting in front of a brace -/

/-- A token that begins in front of an opening brace ends in front of it. -/
theorem tokenAfterBrace?_append_brace (cs rest : List Char) :
    tokenAfterBrace? (cs ++ '\x7b' :: rest) =
      (tokenAfterBrace? cs).map fun found ↦ (found.1, found.2 ++ '\x7b' :: rest) := by
  have hletters : ∀ c ∈ cs.takeWhile Char.isAlpha, c.isAlpha = true := fun _ ↦
    List.mem_takeWhile_imp
  have hends : ∀ c ∈ (cs.dropWhile Char.isAlpha ++ '\x7b' :: rest).head?, c.isAlpha = false := by
    cases hdrop : cs.dropWhile Char.isAlpha with
    | nil => exact Text.forall_head?_cons (by decide)
    | cons c tail =>
      have hc := List.head_dropWhile_not Char.isAlpha (l := cs) (by simp [hdrop])
      simp only [hdrop, List.head_cons] at hc
      exact Text.forall_head?_cons hc
  have hcut : cs ++ '\x7b' :: rest =
      cs.takeWhile Char.isAlpha ++ (cs.dropWhile Char.isAlpha ++ '\x7b' :: rest) := by
    rw [← List.append_assoc, List.takeWhile_append_dropWhile]
  have htake := Text.takeWhile_run hletters hends
  have hdrop := Text.dropWhile_run hletters hends
  rw [← hcut] at htake hdrop
  rw [tokenAfterBrace?, tokenAfterBrace?, htake, hdrop]
  -- The search stops at what comes behind the letters: nothing, a closing brace, or anything else.
  cases cs.dropWhile Char.isAlpha with
  | nil => rfl
  | cons c tail =>
    by_cases hc : c = '\x7d'
    · subst hc
      cases cs.takeWhile Char.isAlpha <;> rfl
    · simp [hc]

theorem segments_brace (cs : List Char) :
    segments ('\x7b' :: cs) =
      match tokenAfterBrace? cs with
      | some found => .token found.1 :: segments found.2
      | none => .char '\x7b' :: segments cs := by
  rw [segments, if_pos rfl]
  split <;> simp only [*]

/-- **A text can be cut in front of any opening brace.** No token stands across the cut: between the
braces of a token there are only letters. -/
theorem segments_append_brace (cs rest : List Char) :
    segments (cs ++ '\x7b' :: rest) = segments cs ++ segments ('\x7b' :: rest) := by
  fun_induction segments cs with
  | case1 => rw [List.nil_append, List.nil_append]
  | case2 cs name left hfound ih =>
    rw [List.cons_append, segments_brace, tokenAfterBrace?_append_brace, hfound, Option.map_some]
    simp only [ih, List.cons_append]
  | case3 cs hnone ih =>
    rw [List.cons_append, segments_brace, tokenAfterBrace?_append_brace, hnone, Option.map_none]
    simp only [ih, List.cons_append]
  | case4 c cs hc ih => rw [List.cons_append, segments_of_ne hc, ih, List.cons_append]

theorem segments_around_token (halpha : ∀ c ∈ name, c.isAlpha = true) (hne : name ≠ [])
    (before after : List Char) :
    segments (before ++ token name ++ after) =
      segments before ++ .token name :: segments after := by
  have hbrace : before ++ token name ++ after =
      before ++ '\x7b' :: (name ++ '\x7d' :: after) := by simp [token]
  have htoken : '\x7b' :: (name ++ '\x7d' :: after) = token name ++ after := by simp [token]
  rw [hbrace, segments_append_brace, htoken, segments_token halpha hne]

/-! ## Texts without tokens -/

/-- A name that a token can have. -/
def IsName (name : List Char) : Prop := name ≠ [] ∧ ∀ c ∈ name, c.isAlpha = true

instance (name : List Char) : Decidable (IsName name) :=
  decidable_of_iff (name ≠ [] ∧ name.all Char.isAlpha = true)
    (and_congr_right fun _ ↦ List.all_eq_true)

/-- No token stands anywhere in the text. -/
def Tokenless (cs : List Char) : Prop :=
  ∀ before name after, IsName name → cs ≠ before ++ token name ++ after

theorem Tokenless.of_cons {c : Char} (h : Tokenless (c :: cs)) : Tokenless cs :=
  fun before name after hname heq ↦ h (c :: before) name after hname (by rw [heq]; rfl)

/-- What is found behind a brace makes a token with it. -/
theorem eq_token_of_tokenAfterBrace? {rest : List Char}
    (h : tokenAfterBrace? cs = some (name, rest)) :
    IsName name ∧ '\x7b' :: cs = token name ++ rest := by
  obtain ⟨htake, hdrop⟩ := tokenAfterBrace?_eq_some h
  refine ⟨⟨?_, ?_⟩, ?_⟩
  · rintro rfl
    rw [tokenAfterBrace?, htake, hdrop] at h
    cases h
  · rw [← htake]
    exact fun _ ↦ List.mem_takeWhile_imp
  · rw [← List.takeWhile_append_dropWhile (p := Char.isAlpha) (l := cs), htake, hdrop]
    simp [token]

theorem segments_of_tokenless (h : Tokenless cs) : segments cs = cs.map .char := by
  induction cs with
  | nil => rw [segments, List.map_nil]
  | cons c cs ih =>
    rw [List.map_cons, ← ih h.of_cons]
    by_cases hc : c = '\x7b'
    · subst hc
      rw [segments_brace]
      cases hfound : tokenAfterBrace? cs with
      | none => rfl
      | some found =>
        obtain ⟨hname, heq⟩ := eq_token_of_tokenAfterBrace? hfound
        exact absurd heq (h [] found.1 found.2 hname)
    · exact segments_of_ne hc cs

/-! ## Keys of replacements -/

/-- The key is the name, with any number of braces around it. -/
def IsKeyOf (key : String) (name : List Char) : Prop :=
  ∃ opening closing : Nat,
    key.toList = List.replicate opening '\x7b' ++ name ++ List.replicate closing '\x7d'

/-- Stripping the braces off a key leaves the name that it is a key of. -/
theorem keyName_eq_iff (hname : IsName name) {key : String} :
    keyName key = name ↔ IsKeyOf key name := by
  obtain ⟨hne, halpha⟩ := hname
  rw [keyName, keyName.dropEndBraces]
  constructor
  · rintro rfl
    obtain ⟨opening, closing, hkey⟩ := Text.exists_eq_replicate_append '\x7b' '\x7d' key.toList
    exact ⟨opening, closing, by rw [List.append_assoc, ← hkey]⟩
  · rintro ⟨opening, closing, hkey⟩
    have hopening : '\x7b' ∉ name := fun hmem ↦ absurd (halpha _ hmem) (by decide)
    have hclosing : '\x7d' ∉ name := fun hmem ↦ absurd (halpha _ hmem) (by decide)
    rw [hkey, List.append_assoc]
    exact Text.dropEndWhile_dropWhile_replicate hne hopening hclosing opening closing

/-- What stands for a token when a text is filled: the value of the first replacement whose key is
the name of the token, and the token itself if there is none. -/
structure StandsFor (replacements : List (String × String)) (name : List Char) (value : String) :
    Prop where
  replaced : ∀ before key found after, replacements = before ++ (key, found) :: after →
    IsKeyOf key name → (∀ entry ∈ before, ¬ IsKeyOf entry.1 name) → value = found
  kept : (∀ entry ∈ replacements, ¬ IsKeyOf entry.1 name) → value = String.ofList (token name)

theorem find?_keyName_eq_none (hname : IsName name) {replacements : List (String × String)}
    (hnone : ∀ entry ∈ replacements, ¬ IsKeyOf entry.1 name) :
    replacements.find? (fun entry ↦ keyName entry.1 == name) = none := by
  rw [List.find?_eq_none]
  intro entry hentry hsame
  exact hnone entry hentry ((keyName_eq_iff hname).mp (beq_iff_eq.mp hsame))

theorem standsFor_fillSegment (hname : IsName name) (replacements : List (String × String)) :
    StandsFor replacements name (String.ofList (fillSegment replacements (.token name))) where
  replaced := by
    intro before key found after hsplit hkey hbefore
    have hsame : (keyName key == name) = true := beq_iff_eq.mpr ((keyName_eq_iff hname).mpr hkey)
    have hfound : replacement? replacements name = some found := by
      rw [replacement?, hsplit, List.find?_append, find?_keyName_eq_none hname hbefore,
        Option.none_or, List.find?_cons, hsame, Option.map_some]
    rw [fillSegment, hfound, Option.map_some, Option.getD_some, String.ofList_toList]
  kept := by
    intro hkept
    rw [fillSegment, replacement?, find?_keyName_eq_none hname hkept, Option.map_none,
      Option.map_none, Option.getD_none]

/-! ## Filling around a token -/

/-- **Filling around a token.** Wherever a token stands in a text, what is in front of it and what
is behind it are filled as if they stood alone, and the value goes between them as it is; the tokens
of the text are those in front, the token, and those behind. A text without tokens is left as it
is. -/
theorem fill_around_token (replacements : List (String × String)) :
    (∀ (a b : String) (name : List Char), IsName name → ∃ value,
      StandsFor replacements name value ∧
      fill (a ++ String.ofList (token name) ++ b) replacements =
        fill a replacements ++ value ++ fill b replacements ∧
      placeholders (a ++ String.ofList (token name) ++ b) =
        placeholders a ++ [String.ofList (token name)] ++ placeholders b) ∧
    ∀ text : String, Tokenless text.toList →
      fill text replacements = text ∧ placeholders text = [] := by
  constructor
  · intro a b name hname
    have hsegments : segments (a ++ String.ofList (token name) ++ b).toList =
        segments a.toList ++ .token name :: segments b.toList := by
      rw [String.toList_append, String.toList_append, String.toList_ofList,
        segments_around_token hname.2 hname.1]
    refine ⟨_, standsFor_fillSegment hname replacements, ?_, ?_⟩
    · rw [fill, hsegments, List.flatMap_append, List.flatMap_cons, String.ofList_append,
        String.ofList_append, ← String.append_assoc, fill, fill]
    · rw [placeholders, hsegments, List.filterMap_append, List.append_assoc]
      rfl
  · intro text htext
    have hsegments := segments_of_tokenless htext
    constructor
    · rw [fill, hsegments, List.flatMap_map]
      have hchars : (fun c ↦ fillSegment replacements (.char c)) = List.singleton := rfl
      rw [hchars]
      exact (congrArg String.ofList (List.flatMap_singleton' text.toList)).trans
        String.ofList_toList
    · rw [placeholders, hsegments, List.filterMap_map]
      exact List.filterMap_eq_nil_iff.mpr fun _ _ ↦ rfl

/-- Braces that belong to nothing on both sides of a token, and a value with a token in it. -/
theorem fill_around_token_stray :
    fill "\x7b\x7bB\x7d\x7b\x7bA\x7d\x7d" [("\x7bA\x7d\x7d", "\x7bB\x7d"), ("B", "b")] =
      "\x7bb\x7b\x7bB\x7d\x7d" := by
  obtain ⟨value, hvalue, hfill, -⟩ :=
    (fill_around_token [("\x7bA\x7d\x7d", "\x7bB\x7d"), ("B", "b")]).1
      "\x7b\x7bB\x7d\x7b" "\x7d" ['A'] (by decide)
  have hB : value = "\x7bB\x7d" := hvalue.replaced [] _ _ _ rfl ⟨1, 2, by decide⟩ (by simp)
  have hfront : fill "\x7b\x7bB\x7d\x7b" [("\x7bA\x7d\x7d", "\x7bB\x7d"), ("B", "b")] =
      "\x7bb\x7b" := by decide +kernel
  have hback : fill "\x7d" [("\x7bA\x7d\x7d", "\x7bB\x7d"), ("B", "b")] = "\x7d" := by
    decide +kernel
  rw [hB, hfront, hback] at hfill
  exact hfill

end SqlGateway.Template
