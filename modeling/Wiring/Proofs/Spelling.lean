import Wiring.Proofs.Record

/-!
# Spelling manifests

A manifest is spelled by many tables: their keys may stand in any order, other keys may be added, and
a field with its default may be left out, and all this in the tables inside them as well. One of them has
every field: `Manifest.spelledBy_toTable`.
-/

namespace Wiring

open Toml (Value Table)

/-! ## Keys -/

def Dependency.keys : List Text := ["type".toList, "name".toList, "import".toList]

def Accessors.keys : List Text :=
  ["setter".toList, "current_getter".toList, "parent_getter".toList]

def Fix.keys : List Text :=
  ["controller".toList, "entity".toList, "method".toList, "line".toList, "inherit_from".toList]

def Manifest.keys : List Text :=
  ["path_template".toList, "extend".toList, "create".toList, "dependency".toList, "plan".toList,
    "fix".toList]

theorem Dependency.nodup_keys : keys.Nodup := by decide

theorem Accessors.nodup_keys : keys.Nodup := by decide

theorem Fix.nodup_keys : keys.Nodup := by decide

theorem Manifest.nodup_keys : keys.Nodup := by decide

/-! ## Spelling -/

section
variable {α : Type}

def SpellsText (v : Value) (s : Text) : Prop := v = .string s

theorem SpellsText.string (s : Text) : SpellsText (.string s) s := rfl

def SpellsPresent (v : Value) (o : Option Text) : Prop := ∃ s, SpellsText v s ∧ o = some s

def SpellsList (spells : Value → α → Prop) (v : Value) (as : List α) : Prop :=
  ∃ vs, v = .array vs ∧ List.Forall₂ spells vs as

def SpellsRecord (spelled : α → Table → Prop) (v : Value) (a : α) : Prop :=
  ∃ t, v = .table t ∧ spelled a t

end

/-- The fields stand under their keys, in any order, or are left out and have their defaults. -/
structure Dependency.SpelledBy (d : Dependency) (t : Table) : Prop where
  nodup : (t.map Prod.fst).Nodup
  type : Gives t "type".toList SpellsText ({} : Dependency).type d.type
  name : Gives t "name".toList SpellsText ({} : Dependency).name d.name
  imported : Gives t "import".toList SpellsPresent none d.imported

structure Accessors.SpelledBy (a : Accessors) (t : Table) : Prop where
  nodup : (t.map Prod.fst).Nodup
  setter : Gives t "setter".toList SpellsText ({} : Accessors).setter a.setter
  currentGetter : Gives t "current_getter".toList SpellsText ({} : Accessors).currentGetter a.currentGetter
  parentGetter : Gives t "parent_getter".toList SpellsText ({} : Accessors).parentGetter a.parentGetter

structure Fix.SpelledBy (f : Fix) (t : Table) : Prop where
  nodup : (t.map Prod.fst).Nodup
  controller : ("controller".toList, .string f.controller) ∈ t
  entity : ("entity".toList, .string f.entity) ∈ t
  method : ("method".toList, .string f.method) ∈ t
  line : ("line".toList, .integer f.line.toNat) ∈ t
  inheritFrom : Gives t "inherit_from".toList SpellsPresent none f.inheritFrom

structure Manifest.SpelledBy (m : Manifest) (t : Table) : Prop where
  nodup : (t.map Prod.fst).Nodup
  pathTemplate : Gives t "path_template".toList SpellsText ({} : Manifest).pathTemplate m.pathTemplate
  extend : Gives t "extend".toList (SpellsList SpellsText) [] m.extend
  create : Gives t "create".toList (SpellsList SpellsText) [] m.create
  dependency : Gives t "dependency".toList (SpellsRecord Dependency.SpelledBy) {} m.dependency
  accessors : Gives t "plan".toList (SpellsRecord Accessors.SpelledBy) {} m.accessors
  fixes : Gives t "fix".toList (SpellsList (SpellsRecord Fix.SpelledBy)) [] m.fixes

/-! ## Spelling out -/

def presentEntry (key : Text) (o : Option Text) : Table := (o.map fun s => (key, .string s)).toList

def Dependency.toTable (d : Dependency) : Table :=
  [("type".toList, .string d.type), ("name".toList, .string d.name)] ++
    presentEntry "import".toList d.imported

def Accessors.toTable (a : Accessors) : Table :=
  [("setter".toList, .string a.setter), ("current_getter".toList, .string a.currentGetter),
    ("parent_getter".toList, .string a.parentGetter)]

def Fix.toTable (f : Fix) : Table :=
  [("controller".toList, .string f.controller), ("entity".toList, .string f.entity),
    ("method".toList, .string f.method), ("line".toList, .integer f.line.toNat)] ++
    presentEntry "inherit_from".toList f.inheritFrom

def Manifest.toTable (m : Manifest) : Table :=
  [("path_template".toList, .string m.pathTemplate), ("extend".toList, .array (m.extend.map .string)),
    ("create".toList, .array (m.create.map .string)), ("dependency".toList, .table m.dependency.toTable),
    ("plan".toList, .table m.accessors.toTable),
    ("fix".toList, .array (m.fixes.map fun f => .table f.toTable))]

section
variable {t : Table} {key : Text} {o : Option Text} (hkeys : (t.map Prod.fst ++ [key]).Nodup)
include hkeys

theorem nodup_append_presentEntry : ((t ++ presentEntry key o).map Prod.fst).Nodup := by
  rw [List.map_append]
  cases o with
  | none => exact hkeys.sublist (List.append_sublist_append_left _ |>.2 (List.nil_sublist _))
  | some s => exact hkeys

theorem gives_append_presentEntry : Gives (t ++ presentEntry key o) key SpellsPresent none o := by
  cases o with
  | none =>
    have hkey : key ∉ t.map Prod.fst := fun h =>
      (List.nodup_append.1 hkeys).2.2 key h key (List.mem_singleton_self _) rfl
    exact .inr ⟨by simpa [presentEntry] using hkey, rfl⟩
  | some s => exact .inl ⟨.string s, by simp [presentEntry], s, rfl, rfl⟩

end

theorem SpellsList.of_map {α : Type} {spells : Value → α → Prop} {spell : α → Value}
    (h : ∀ a, spells (spell a) a) (as : List α) : SpellsList spells (.array (as.map spell)) as :=
  ⟨_, rfl, List.forall₂_map_left_iff.2 (List.forall₂_same.2 fun a _ => h a)⟩

theorem Dependency.spelledBy_toTable (d : Dependency) : d.SpelledBy d.toTable where
  nodup := by
    rw [toTable]
    exact nodup_append_presentEntry nodup_keys
  type := .inl ⟨_, by simp [toTable], rfl⟩
  name := .inl ⟨_, by simp [toTable], rfl⟩
  imported := by
    rw [toTable]
    exact gives_append_presentEntry nodup_keys

theorem Accessors.spelledBy_toTable (a : Accessors) : a.SpelledBy a.toTable where
  nodup := nodup_keys
  setter := .inl ⟨_, by simp [toTable], rfl⟩
  currentGetter := .inl ⟨_, by simp [toTable], rfl⟩
  parentGetter := .inl ⟨_, by simp [toTable], rfl⟩

theorem Fix.spelledBy_toTable (f : Fix) : f.SpelledBy f.toTable where
  nodup := by
    rw [toTable]
    exact nodup_append_presentEntry nodup_keys
  controller := by simp [toTable]
  entity := by simp [toTable]
  method := by simp [toTable]
  line := by simp [toTable]
  inheritFrom := by
    rw [toTable]
    exact gives_append_presentEntry nodup_keys

theorem Manifest.spelledBy_toTable (m : Manifest) : m.SpelledBy m.toTable where
  nodup := nodup_keys
  pathTemplate := .inl ⟨_, by simp [toTable], rfl⟩
  extend := .inl ⟨.array (m.extend.map .string), by simp [toTable], .of_map SpellsText.string _⟩
  create := .inl ⟨.array (m.create.map .string), by simp [toTable], .of_map SpellsText.string _⟩
  dependency := .inl ⟨_, by simp [toTable], _, rfl, m.dependency.spelledBy_toTable⟩
  accessors := .inl ⟨_, by simp [toTable], _, rfl, m.accessors.spelledBy_toTable⟩
  fixes := .inl ⟨_, by simp [toTable], .of_map (fun f => ⟨_, rfl, f.spelledBy_toTable⟩) _⟩

end Wiring
