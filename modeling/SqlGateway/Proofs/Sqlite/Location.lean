import SqlGateway.Proofs.Sqlite.Preparation
import SqlGateway.Proofs.Text.Pieces
import SqlGateway.Sqlite.Disk

/-!
# Where a name leads

A database in a file is in the place that its path names, and that can be read off the path: what
files and directories there are decides whether the database can be opened, but not where it is.

A URI can ask for another place by its options, which are `key=value` pairs. Without an equals sign
it has no values to ask with, so its path decides, as it does for any other name.

## Main results

* `Disk.placeOf_eq`: a path leads to one place on every disk.
* `Disk.open_residence`: where the database of a name without an equals sign is.
-/

namespace SqlGateway

/-! ## Places -/

/-- The place that a step names. -/
def Place.enter (place : Place) (name : String) : Place :=
  if name = "." then place else if name = ".." then place.parent else place ++ [name]

/-- The place that a path names. -/
def Place.ofPath (path : String) : Place := (pathSteps path).foldl Place.enter (pathStart path)

namespace Sqlite

namespace Disk

variable {files : FileSystem Database} {disk left : Disk}

theorem step_eq {place next : Place} {name : String} (h : step files place name = some next) :
    next = place.enter name := by
  rw [step] at h
  rw [Place.enter]
  by_cases hdot : name = "."
  · rw [if_pos hdot] at h ⊢
    exact (Option.some.inj h).symm
  by_cases hdots : name = ".."
  · rw [if_neg hdot, if_pos hdots] at h ⊢
    exact (Option.some.inj h).symm
  rw [if_neg hdot, if_neg hdots] at h ⊢
  split at h
  · cases h
  · split at h
    · next found hfound =>
      -- A step into a directory adds the name, and so does one to where there is nothing.
      rw [FileSystem.step, if_neg hdot, if_neg hdots] at hfound
      split at hfound
      · split at hfound
        · cases hfound
        · rw [← Option.some.inj h, ← Except.ok.inj hfound]
      · split at hfound
        · cases hfound
        · cases hfound
    · exact (Option.some.inj h).symm
    · cases h

theorem foldlM_step_eq {steps : List String} {place last : Place}
    (h : steps.foldlM (step files) place = some last) : last = steps.foldl Place.enter place := by
  induction steps generalizing place with
  | nil => exact (Option.some.inj h).symm
  | cons name steps ih =>
    rw [List.foldlM_cons] at h
    obtain ⟨next, hnext, hrest⟩ := Option.bind_eq_some_iff.mp h
    rw [List.foldl_cons, ← step_eq hnext]
    exact ih hrest

theorem placeOf_eq {path : String} {place : Place} (h : disk.placeOf path = some place) :
    place = .ofPath path := by
  obtain ⟨last, hlast, hplace⟩ := Option.bind_eq_some_iff.mp h
  split at hplace
  · cases hplace
  · rw [← Option.some.inj hplace]
    exact foldlM_step_eq hlast

theorem openFile_residence {path : String} {mode : OpenMode} {residence : Residence}
    (h : disk.openFile path mode = .ok (residence, left)) : residence = .file (.ofPath path) := by
  rw [openFile] at h
  split at h
  · cases h
  · next place hplace =>
    rw [← placeOf_eq hplace]
    split at h
    · cases h
    · split at h
      · exact (Prod.mk.inj (Except.ok.inj h)).1.symm
      · split at h
        · exact (Prod.mk.inj (Except.ok.inj h)).1.symm
        · cases h

end Disk

/-! ## URIs -/

/-- The path of a URI, behind its scheme and its authority. -/
def uriPath (rest : List Char) : String :=
  let behind := (behindAuthority rest).toOption.getD []
  uriText ((behind.takeWhile (· != '#')).takeWhile (· != '?'))

/-- The path that the name of a database stands for. -/
def namedPath (name : String) : String :=
  match name.toList with
  | 'f' :: 'i' :: 'l' :: 'e' :: ':' :: rest => uriPath rest
  | _ => name

/-- A name that is no URI is a path. -/
theorem namedPath_of_plain {name : String} (huri : ¬"file:".toList <+: name.toList) :
    namedPath name = name := by
  rw [namedPath]
  split
  · next rest hname =>
    rw [hname] at huri
    exact absurd (List.prefix_append "file:".toList rest) huri
  · rfl

/-- What the database of a path is kept in. -/
def mediumOf (path : String) : Medium :=
  if path = memoryDataSource ∨ path = "" then .memory none else .file path

theorem uriOption?_of_not_mem {part : List Char} (hequals : '=' ∉ part) {option : String × String}
    (h : uriOption? part = some option) : option.2 = "" := by
  rw [uriOption?, Text.cut?_eq_none_iff.mpr hequals] at h
  simp only [Option.getD_none] at h
  split at h
  · cases h
  · rw [← Option.some.inj h]
    rfl

/-- An option without a value is refused, or changes nothing, or asks for a driver that there is
not. -/
theorem UriOptions.add_of_empty {options left : UriOptions} {option : String × String}
    (hempty : option.2 = "") (h : options.add option = .ok left) :
    left = options ∨ left = { options with driver := "" } := by
  obtain ⟨name, value⟩ := option
  obtain rfl : value = "" := hempty
  rw [UriOptions.add] at h
  split at h
  · exact .inr (Except.ok.inj h).symm
  split at h
  · rw [if_neg (by decide), if_neg (by decide)] at h
    cases h
  split at h
  · have hmode : OpenMode.ofName? "" = none := rfl
    simp only [hmode] at h
    cases h
  · exact .inl (Except.ok.inj h).symm

theorem UriOptions.foldlM_add_of_empty {given : List (String × String)} {options left : UriOptions}
    (hempty : ∀ option ∈ given, option.2 = "")
    (h : given.foldlM UriOptions.add options = .ok left) :
    left = options ∨ left = { options with driver := "" } := by
  induction given generalizing options with
  | nil => exact .inl (Except.ok.inj h).symm
  | cons option given ih =>
    rw [List.foldlM_cons] at h
    obtain ⟨next, hnext, hrest⟩ := bind_eq_ok.mp h
    have hlater := ih (fun other hmem ↦ hempty other (List.mem_cons_of_mem _ hmem)) hrest
    rcases UriOptions.add_of_empty (hempty option List.mem_cons_self) hnext with rfl | rfl
    · exact hlater
    · rcases hlater with rfl | rfl
      · exact .inr rfl
      · exact .inr rfl

theorem mem_of_behindAuthority {rest behind : List Char} (h : behindAuthority rest = .ok behind)
    {c : Char} (hc : c ∈ behind) : c ∈ rest := by
  unfold behindAuthority at h
  split at h
  · dsimp only at h
    split at h
    · rw [← Except.ok.inj h] at hc
      exact List.mem_cons_of_mem _ (List.mem_cons_of_mem _ (List.dropWhile_subset _ hc))
    · cases h
  · rwa [Except.ok.inj h]

theorem UriOptions.medium_default (path : String) :
    ({} : UriOptions).medium path = mediumOf path := by
  rw [UriOptions.medium, mediumOf]
  by_cases hmemory : path = memoryDataSource
  · rw [if_pos (Or.inl hmemory), if_pos (Or.inl hmemory)]
    rfl
  · rw [if_neg (by simp [hmemory])]
    by_cases hempty : path = ""
    · rw [if_pos (by simp [hempty]), if_pos (.inr hempty)]
    · rw [if_neg (by simpa using hempty), if_neg (by decide), if_neg (by simp [hmemory, hempty])]

/-- Without an equals sign, the path of a URI decides. -/
theorem ofUri_medium {rest : List Char} (hequals : '=' ∉ rest) {location : Location}
    (h : Location.ofUri rest = .ok location) : location.medium = mediumOf (uriPath rest) := by
  rw [Location.ofUri] at h
  obtain ⟨behind, hbehind, h⟩ := bind_eq_ok.mp h
  dsimp only at h
  obtain ⟨options, hoptions, h⟩ := bind_eq_ok.mp h
  have hempty : ∀ option ∈ (Text.pieces '&' ((Text.cut? '?' (behind.takeWhile (· != '#'))).getD
      (behind.takeWhile (· != '#'), [])).2).filterMap uriOption?, option.2 = "" := by
    intro option hmem
    obtain ⟨part, hpart, hoption⟩ := List.mem_filterMap.mp hmem
    refine uriOption?_of_not_mem (fun hc ↦ hequals ?_) hoption
    have hquery := Text.mem_of_snd_cut?_getD (Text.mem_of_mem_pieces hpart hc)
    exact mem_of_behindAuthority hbehind (List.takeWhile_subset _ hquery)
  rcases UriOptions.foldlM_add_of_empty hempty hoptions with rfl | rfl
  · rw [if_neg (by decide)] at h
    rw [← Except.ok.inj h, UriOptions.medium_default, Text.fst_cut?_getD, uriPath, hbehind]
    rfl
  · -- There is no driver without a name.
    rw [if_pos (by decide)] at h
    cases h

theorem ofName_medium {name : String} (hequals : '=' ∉ name.toList) (hne : name ≠ "")
    {location : Location} (h : Location.ofName name = .ok location) :
    location.medium = mediumOf (namedPath name) := by
  rw [Location.ofName] at h
  split at h
  · cases h
  dsimp only at h
  split at h
  · next rest hname =>
    have hrest : '=' ∉ rest := by
      rw [hname] at hequals
      simpa using hequals
    rw [namedPath, hname]
    exact ofUri_medium hrest h
  · next hname =>
    have huri : ¬"file:".toList <+: name.toList := fun ⟨rest, hrest⟩ ↦ hname rest hrest.symm
    rw [namedPath_of_plain huri, ← Except.ok.inj h, mediumOf]
    simp only [hne, or_false]

/-! ## Opening -/

/-- Where the database of a name is. -/
def Residence.named (name : String) : Residence :=
  let path := namedPath name
  if path = memoryDataSource ∨ path = "" then .alone else .file (.ofPath path)

theorem Residence.named_of_plain {name : String} (huri : ¬"file:".toList <+: name.toList)
    (hmemory : name ≠ memoryDataSource) (hne : name ≠ "") :
    Residence.named name = .file (.ofPath name) := by
  rw [Residence.named, namedPath_of_plain huri]
  exact if_neg (not_or.mpr ⟨hmemory, hne⟩)

theorem Disk.reside_eq {disk left : Disk} {location : Location} {path : String}
    (hmedium : location.medium = mediumOf path) {residence : Residence}
    (h : disk.reside location = .ok (residence, left)) :
    residence = if path = memoryDataSource ∨ path = "" then .alone else .file (.ofPath path) := by
  rw [mediumOf] at hmedium
  rw [Disk.reside] at h
  by_cases hmemory : path = memoryDataSource ∨ path = ""
  · rw [if_pos hmemory] at hmedium ⊢
    rw [hmedium] at h
    exact (Prod.mk.inj (Except.ok.inj h)).1.symm
  · rw [if_neg hmemory] at hmedium ⊢
    rw [hmedium] at h
    exact openFile_residence h

/-- **A name without an equals sign decides where its database is.** -/
theorem Disk.open_residence {disk left : Disk} {name : String} (hequals : '=' ∉ name.toList)
    (hne : name ≠ "") {opened : OpenDatabase} (h : disk.open name = .ok (opened, left)) :
    opened.residence = .named name := by
  rw [Disk.open] at h
  obtain ⟨location, hlocation, h⟩ := bind_eq_ok.mp h
  obtain ⟨⟨residence, found⟩, hreside, h⟩ := bind_eq_ok.mp h
  obtain ⟨rfl, -⟩ := Prod.mk.inj (Except.ok.inj h)
  exact reside_eq (ofName_medium hequals hne hlocation) hreside

end Sqlite

end SqlGateway
