import SqlGateway.FileSystem

/-!
# Files that are read back

What is stored in a place is found there, and nowhere else. Storing a file makes no directory and
takes none away, so that a path leads to the same place as before. Where a file can be written does
not depend on what is in it, and what was written is what is read.
-/

namespace SqlGateway.FileSystem

variable {α : Type}

/-! ## Places -/

theorem find?_put (place : Place) (contents : α) (files : List (Place × α)) (other : Place) :
    (put place contents files).find? (fun file ↦ file.1 == other) =
      if place = other then some (place, contents) else files.find? fun file ↦ file.1 == other := by
  have hcons (file : Place × α) (files : List (Place × α)) :
      (file :: files).find? (fun file ↦ file.1 == other) =
        if file.1 = other then some file else files.find? fun file ↦ file.1 == other := by
    rw [List.find?_cons]
    by_cases hfile : file.1 = other
    · rw [if_pos hfile, beq_iff_eq.mpr hfile]
    · rw [if_neg hfile, beq_false_of_ne hfile]
  induction files with
  | nil => rw [put, hcons]
  | cons file files ih =>
    rw [put]
    by_cases hfile : file.1 = place
    · rw [if_pos hfile, hcons, hcons, hfile]
      by_cases hplace : place = other
      · rw [if_pos hplace, if_pos hplace]
      · rw [if_neg hplace, if_neg hplace, if_neg hplace]
    · rw [if_neg hfile, hcons, hcons, ih]
      by_cases hother : file.1 = other
      · have hplace : place ≠ other := fun heq ↦ hfile (hother.trans heq.symm)
        rw [if_pos hother, if_neg hplace, if_pos hother]
      · rw [if_neg hother, if_neg hother]

theorem lookup_store (fs : FileSystem α) (place : Place) (contents : α) (other : Place) :
    (fs.store place contents).lookup other =
      if place = other then some contents else fs.lookup other := by
  rw [lookup, lookup, store, find?_put]
  split
  · rfl
  · rfl

/-- A step that goes well goes well when a file has been stored. -/
theorem step_store {fs : FileSystem α} {start next : Place} {name : String}
    (hstep : fs.step start name = .ok next) (place : Place) (contents : α) :
    (fs.store place contents).step start name = .ok next := by
  rw [step] at hstep ⊢
  by_cases hdirectory : fs.isDirectory start = true
  · rw [if_pos hdirectory] at hstep
    exact (if_pos hdirectory).trans hstep
  · rw [if_neg hdirectory] at hstep
    split at hstep <;> cases hstep

theorem walk_store {fs : FileSystem α} {path : String} {steps : List String} {found : Place}
    (hwalk : fs.walk path steps = .ok found) (place : Place) (contents : α) :
    (fs.store place contents).walk path steps = .ok found := by
  rw [walk] at hwalk ⊢
  generalize pathStart path = start at hwalk ⊢
  induction steps generalizing start with
  | nil => exact hwalk
  | cons name steps ih =>
    rw [List.foldlM_cons] at hwalk ⊢
    cases hstep : fs.step start name with
    | error e =>
      rw [hstep] at hwalk
      cases hwalk
    | ok next =>
      rw [hstep] at hwalk
      rw [step_store hstep]
      exact ih next hwalk

/-! ## Files -/

/-- A path at which a file can be written: it can be one, it is not that of a directory, and it
leads to a place where there is a file or room for one. -/
structure Writable (fs : FileSystem α) (path : String) (place : Place) : Prop where
  checked : checkPath path = .ok ()
  isFile : path.endsWith '/' = false
  leads : fs.walk path (pathSteps path) = .ok place
  isFree : fs.isDirectory place = false

theorem write_eq {fs : FileSystem α} {path : String} {place : Place} (h : fs.Writable path place)
    (contents : α) : fs.write path contents = .ok (fs.store place contents) := by
  rw [write, h.checked, h.isFile, h.leads]
  simp only [bind, Except.bind, Bool.false_eq_true, if_false, h.isFree]
  rfl

/-- **Where a file can be written does not depend on what is in it.** -/
theorem write_eq_ok_iff {fs left : FileSystem α} {path : String} {contents : α} :
    fs.write path contents = .ok left ↔
      ∃ place, fs.Writable path place ∧ left = fs.store place contents := by
  constructor
  · intro hwrite
    rw [write] at hwrite
    cases hchecked : checkPath path with
    | error e =>
      rw [hchecked] at hwrite
      cases hwrite
    | ok _ =>
      rw [hchecked] at hwrite
      simp only [bind, Except.bind] at hwrite
      by_cases hfile : path.endsWith '/' = true
      · -- What has a slash behind it is refused in any case.
        rw [if_pos hfile] at hwrite
        split at hwrite
        · cases hwrite
        · split at hwrite <;> cases hwrite
      · rw [if_neg hfile] at hwrite
        cases hleads : fs.walk path (pathSteps path) with
        | error e =>
          rw [hleads] at hwrite
          cases hwrite
        | ok place =>
          rw [hleads] at hwrite
          by_cases hdirectory : fs.isDirectory place = true
          · simp only [if_pos hdirectory] at hwrite
            cases hwrite
          · simp only [if_neg hdirectory] at hwrite
            cases hwrite
            exact ⟨place, ⟨hchecked, Bool.not_eq_true _ ▸ hfile, hleads,
              Bool.not_eq_true _ ▸ hdirectory⟩, rfl⟩
  · rintro ⟨place, hpath, rfl⟩
    exact write_eq hpath contents

/-- **What is written is read.** -/
theorem read_store {fs : FileSystem α} {path : String} {place : Place}
    (h : fs.Writable path place) (contents : α) :
    (fs.store place contents).read path = .ok contents := by
  have hfree : (fs.store place contents).isDirectory place = false := h.isFree
  rw [read, h.checked, walk_store h.leads]
  simp only [bind, Except.bind, hfree, Bool.false_eq_true, if_false, lookup_store, if_true,
    h.isFile]
  rfl

end SqlGateway.FileSystem
