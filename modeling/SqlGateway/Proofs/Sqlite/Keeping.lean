import SqlGateway.Proofs.FileSystem
import SqlGateway.Proofs.Sqlite.Call

/-!
# What is kept of a database between calls

A connection loads its database before every call and saves it behind. As long as no other
connection holds a lock, what was saved is what is loaded again, and the tables of all other
databases are left as they are. A database in a file keeps its tables when it is closed, and they
are what is found when it is opened again.
-/

namespace SqlGateway

namespace Sqlite.Disk

variable {disk : Disk} {database : Database} {residence other : Residence} {opened : OpenDatabase}

/-! ## Databases in their places -/

theorem lookup_filter_of_ne {α : Type} {name found : String} (hne : found ≠ name)
    (entries : List (String × α)) :
    (entries.filter (·.1 != name)).lookup found = entries.lookup found := by
  induction entries with
  | nil => rfl
  | cons entry entries ih =>
    obtain ⟨key, value⟩ := entry
    by_cases hkey : key = name
    · subst hkey
      have hfound : (found == key) = false := beq_false_of_ne hne
      rw [List.filter_cons_of_neg (by simp), ih, List.lookup_cons, hfound]
    · rw [List.filter_cons_of_pos (by simpa using hkey), List.lookup_cons, List.lookup_cons, ih]

theorem find?_put_of_ne (disk : Disk) (database : Database) (hne : other ≠ residence) :
    (disk.put database residence).find? other = disk.find? other := by
  cases residence with
  | alone => rfl
  | memory name =>
    cases other with
    | memory found =>
      have hname : found ≠ name := fun heq ↦ hne (heq ▸ rfl)
      have hfound : (found == name) = false := beq_false_of_ne hname
      rw [put]
      split
      · exact lookup_filter_of_ne hname disk.memory
      · rw [find?, List.lookup_cons, hfound]
        exact lookup_filter_of_ne hname disk.memory
    | _ =>
      rw [put]
      split <;> rfl
  | file place =>
    cases other with
    | file found =>
      have hplace : place ≠ found := fun heq ↦ hne (heq ▸ rfl)
      rw [put, find?, FileSystem.lookup_store, if_neg hplace, find?]
    | _ => rfl

theorem ne_alone_of_find? (hfound : disk.find? residence = some database) :
    residence ≠ .alone := by
  rintro rfl
  cases hfound

/-- A database that connections share is kept while somebody has it open. -/
theorem find?_put (hshared : residence ≠ .alone) (hholders : database.holders ≠ []) :
    (disk.put database residence).find? residence = some database := by
  cases residence with
  | alone => exact absurd rfl hshared
  | memory name =>
    have hnonempty : ¬database.holders.isEmpty = true := by rwa [List.isEmpty_iff]
    rw [put, if_neg hnonempty, find?, List.lookup_cons, beq_self_eq_true]
  | file place => rw [put, find?, FileSystem.lookup_store, if_pos rfl]

/-- A database in a file is kept in any case. -/
theorem find?_put_file (disk : Disk) (database : Database) (place : SqlGateway.Place) :
    (disk.put database (.file place)).find? (.file place) = some database := by
  rw [put, find?, FileSystem.lookup_store, if_pos rfl]

theorem rival_hold (database : Database) (number : Nat) (lock : Option Lock) :
    (database.hold number lock).rival number = database.rival number := by
  have hfilter (holders : List (Nat × Option Lock)) :
      ((number, lock) :: holders.filter (·.1 != number)).filter (·.1 != number) =
        holders.filter (·.1 != number) := by
    rw [List.filter_cons_of_neg (by simp), List.filter_filter]
    simp only [Bool.and_self]
  rw [Database.rival, Database.hold, hfilter, Database.rival]

/-- Whom a connection let go of holds no lock any more. -/
theorem rival_release {database : Database} {number : Nat} (h : database.rival number = none)
    (other : Nat) : (database.release number).rival other = none := by
  rw [Database.rival, Lock.strongest_eq_none] at h ⊢
  rw [List.filterMap_eq_nil_iff] at h ⊢
  intro holder hmem
  exact h holder (List.mem_of_mem_filter hmem)

/-! ## Loading and saving -/

/-- The tables that are committed to a database. -/
def tables? (disk : Disk) (residence : Residence) : Option Store :=
  (disk.find? residence).map Database.tables

theorem rival_load (disk : Disk) (opened : OpenDatabase) :
    (disk.load opened).rival = match disk.find? opened.residence with
      | some database => database.rival opened.number
      | none => opened.handle.rival := by
  cases hfound : disk.find? opened.residence with
  | none => simp only [load, hfound]
  | some database =>
    simp only [load, hfound]
    split
    · rfl
    · rfl

/-- **What was saved is loaded again**, if no other connection holds a lock. -/
theorem load_save {after : Handle} (hrival : (disk.load opened).rival = none)
    (hafter : after.rival = none) :
    (disk.save { opened with handle := after }).load { opened with handle := after } = after := by
  rw [rival_load] at hrival
  cases hfound : disk.find? opened.residence with
  | none => simp only [save, load, hfound]
  | some database =>
    rw [hfound] at hrival
    let kept : Database := ({ database with tables := after.committed } : Database).hold
      opened.number after.held
    have hsave : disk.save { opened with handle := after } = disk.put kept opened.residence := by
      simp only [save, hfound, hafter]
      rfl
    have hkept : (disk.put kept opened.residence).find? opened.residence = some kept :=
      find?_put (ne_alone_of_find? hfound) (List.cons_ne_nil _ _)
    have hfree : kept.rival opened.number = none := (rival_hold _ _ _).trans hrival
    rw [hsave]
    simp only [load, hkept, hfree, Lock.granted_none, if_true]
    rw [← hafter]
    rfl

theorem tables?_save {after : Handle} (hafter : after.rival = none) (residence : Residence) :
    (disk.save { opened with handle := after }).tables? residence =
      if residence = opened.residence then (disk.tables? residence).map fun _ ↦ after.committed
      else disk.tables? residence := by
  rw [tables?, tables?]
  cases hfound : disk.find? opened.residence with
  | none =>
    simp only [save, hfound]
    split
    · next heq => rw [heq, hfound]; rfl
    · rfl
  | some database =>
    have hsave : disk.save { opened with handle := after } = disk.put
        (({ database with tables := after.committed } : Database).hold opened.number after.held)
        opened.residence := by
      simp only [save, hfound, hafter]
      rfl
    rw [hsave]
    by_cases hresidence : residence = opened.residence
    · rw [if_pos hresidence, hresidence, hfound,
        find?_put (ne_alone_of_find? hfound) (List.cons_ne_nil _ _)]
      rfl
    · rw [if_neg hresidence, find?_put_of_ne _ _ hresidence]

/-- The tables that are loaded are those that are kept, if they are kept anywhere else. -/
theorem committed_load (hrival : (disk.load opened).rival = none) {store : Store}
    (htables : disk.tables? opened.residence = some store) :
    (disk.load opened).committed = store := by
  rw [rival_load] at hrival
  obtain ⟨database, hfound, rfl⟩ := Option.map_eq_some_iff.mp htables
  rw [hfound] at hrival
  simp only [load, hfound, hrival, Lock.granted_none, if_true]

/-! ## Closing and opening again -/

/-- The file in a place has these tables, and nobody holds a lock on it. -/
def Rests (disk : Disk) (place : SqlGateway.Place) (store : Store) : Prop :=
  ∃ database, disk.find? (.file place) = some database ∧ database.tables = store ∧
    ∀ number, database.rival number = none

/-- A file that is closed has the tables that were committed to it. -/
theorem rests_close {place : SqlGateway.Place} {store : Store}
    (hrival : (disk.load opened).rival = none) (hfile : opened.residence = .file place)
    (htables : disk.tables? (.file place) = some store) :
    (disk.close opened).Rests place store := by
  obtain ⟨database, hfound, rfl⟩ := Option.map_eq_some_iff.mp htables
  have hfound' : disk.find? opened.residence = some database := by rw [hfile, hfound]
  rw [rival_load, hfound'] at hrival
  refine ⟨database.release opened.number, ?_, rfl, rival_release hrival⟩
  simp only [close, hfound']
  rw [hfile, find?_put_file]

/-- A database that is there is found, and not made again. -/
theorem find?_of_reside {location : Location} {found : Disk}
    (hreside : disk.reside location = .ok (residence, found)) :
    found = disk ∨ disk.find? residence = none ∧ found.find? residence = some .empty := by
  rw [reside] at hreside
  split at hreside
  · exact .inl (Prod.mk.inj (Except.ok.inj hreside)).2.symm
  · exact .inl (Prod.mk.inj (Except.ok.inj hreside)).2.symm
  · next path hmedium =>
    rw [openFile] at hreside
    split at hreside
    · cases hreside
    · next place hplace =>
      split at hreside
      · cases hreside
      split at hreside
      · exact .inl (Prod.mk.inj (Except.ok.inj hreside)).2.symm
      split at hreside
      · next hnone _ =>
        obtain ⟨rfl, rfl⟩ := Prod.mk.inj (Except.ok.inj hreside)
        refine .inr ⟨Option.not_isSome_iff_eq_none.mp hnone, ?_⟩
        rw [find?, FileSystem.lookup_store, if_pos rfl]
      · cases hreside

/-- Who opens a database finds no locks if nobody holds any. -/
theorem rival_of_open {name : String} {disk' : Disk} (hopen : disk.open name = .ok (opened, disk'))
    (hfree : ∀ database, disk.find? opened.residence = some database →
      ∀ number, database.rival number = none) : (disk'.load opened).rival = none := by
  rw [Disk.open] at hopen
  obtain ⟨location, -, hopen⟩ := bind_eq_ok.mp hopen
  obtain ⟨⟨residence, found⟩, hreside, hopen⟩ := bind_eq_ok.mp hopen
  obtain ⟨rfl, rfl⟩ := Prod.mk.inj (Except.ok.inj hopen)
  have hrival (number : Nat) : ((found.find? residence).getD .empty).rival number = none := by
    cases hfound : found.find? residence with
    | none => rfl
    | some database =>
      rcases find?_of_reside hreside with rfl | ⟨-, hempty⟩
      · exact hfree database hfound number
      · obtain rfl := Option.some.inj (hempty.symm.trans hfound)
        rfl
  rw [rival_load]
  by_cases hshared : residence = .alone
  · subst hshared
    rfl
  · rw [find?_put hshared (List.cons_ne_nil _ _)]
    exact (rival_hold _ _ _).trans (hrival _)

/-- **Who opens a file finds the tables that are committed to it.** -/
theorem Rests.load_of_open {name : String} {disk' : Disk} {place : SqlGateway.Place} {store : Store}
    (h : disk.Rests place store) (hopen : disk.open name = .ok (opened, disk'))
    (hfile : opened.residence = .file place) :
    (disk'.load opened).main = store ∧ (disk'.load opened).rival = none := by
  obtain ⟨database, hfound, rfl, hfree⟩ := h
  constructor
  · rw [Disk.open] at hopen
    obtain ⟨location, -, hopen⟩ := bind_eq_ok.mp hopen
    obtain ⟨⟨residence, disk'⟩, hreside, hopen⟩ := bind_eq_ok.mp hopen
    obtain ⟨rfl, rfl⟩ := Prod.mk.inj (Except.ok.inj hopen)
    obtain rfl : residence = .file place := hfile
    rcases find?_of_reside hreside with rfl | ⟨hnone, -⟩
    · simp only [hfound, Option.getD_some, load, find?_put_file]
      split
      · rfl
      · rfl
    · cases hnone.symm.trans hfound
  · refine rival_of_open hopen fun other hother ↦ ?_
    rw [hfile, hfound] at hother
    obtain rfl := Option.some.inj hother
    exact hfree

end Sqlite.Disk

end SqlGateway
