import Mathlib.Data.List.Forall2
import Mathlib.Data.List.Nodup
import Wiring.Manifest.Decoding
import Wiring.Proofs.Disk

/-!
# Records in tables

The fields of a record stand under keys of their own, and to read one leaves the others. So all that
counts in a table is what it gives under the keys of the fields, in whatever order:
`IsRecord.decodeEntries_eq_ok_iff` and `IsRecord.decodeEntries_iff_of_rearranges`.
-/

namespace Wiring

open Toml (Value Table)

/-! ## What a table gives -/

section
variable {β : Type} {t t' : Table} {key k : Text} {v : Value} {spells : Value → β → Prop} {d a : β}

/-- Under `key` stands a value that spells `a`, or nothing stands there and `a` is the default. -/
def Gives (t : Table) (key : Text) (spells : Value → β → Prop) (default a : β) : Prop :=
  (∃ v, (key, v) ∈ t ∧ spells v a) ∨ key ∉ t.map Prod.fst ∧ a = default

theorem Gives.imp {spells' : Value → β → Prop} (h : Gives t key spells d a)
    (himp : ∀ v, spells v a → spells' v a) : Gives t key spells' d a := by
  obtain ⟨v, hv, hs⟩ | h := h
  · exact .inl ⟨v, hv, himp v hs⟩
  · exact .inr h

theorem gives_iff_of_notMem (hkey : key ∉ t.map Prod.fst) : Gives t key spells d a ↔ a = d := by
  rw [Gives, and_iff_right hkey, or_iff_right]
  intro h
  obtain ⟨v, hv, -⟩ := h
  exact hkey (List.mem_map_of_mem hv)

theorem gives_cons_self (hkey : key ∉ t.map Prod.fst) :
    Gives ((key, v) :: t) key spells d a ↔ spells v a := by
  constructor
  · intro h
    obtain ⟨w, hw, hs⟩ | ⟨hno, -⟩ := h
    · obtain heq | hw := List.mem_cons.1 hw
      · rwa [← (Prod.mk.inj heq).2]
      · exact absurd (List.mem_map_of_mem hw) hkey
    · exact absurd List.mem_cons_self hno
  · exact fun hs => .inl ⟨v, List.mem_cons_self, hs⟩

theorem gives_cons_of_ne (hne : key ≠ k) :
    Gives ((k, v) :: t) key spells d a ↔ Gives t key spells d a := by
  simp only [Gives, List.mem_cons, List.map_cons, Prod.mk.injEq, hne, false_and, false_or]

/-- The entries of `t` in any order, under known keys with values as `R` allows, and any entries more
under keys that are not known. -/
structure RearrangesTable (known : List Text) (R : Text → Value → Value → Prop) (t t' : Table) :
    Prop where
  nodup : (t'.map Prod.fst).Nodup
  exists_perm : ∃ kept added, t'.Perm (kept ++ added) ∧
    List.Forall₂ (fun e e' => e.1 = e'.1 ∧ (e.1 ∈ known → R e.1 e.2 e'.2)) t kept ∧
    ∀ e ∈ added, e.1 ∉ known

theorem RearrangesTable.of_perm {known : List Text} {R : Text → Value → Value → Prop} {added : Table}
    (hnodup : (t'.map Prod.fst).Nodup) (hperm : t'.Perm (t ++ added)) (hadded : ∀ e ∈ added, e.1 ∉ known)
    (hR : ∀ k v, R k v v) : RearrangesTable known R t t' :=
  ⟨hnodup, t, added, hperm, List.forall₂_same.2 fun e _ => ⟨rfl, fun _ => hR e.1 e.2⟩, hadded⟩

inductive RearrangesValue (known : List Text) : Value → Value → Prop
  | same (v : Value) : RearrangesValue known v v
  | table {t t' : Table} (h : RearrangesTable known (fun _ => Eq) t t') :
    RearrangesValue known (.table t) (.table t')

theorem exists_of_forall₂ {α γ : Type} {R : α → γ → Prop} {l : List α} {l' : List γ}
    (h : List.Forall₂ R l l') {x : α} (hx : x ∈ l) : ∃ y ∈ l', R x y := by
  induction h with
  | nil => exact absurd hx List.not_mem_nil
  | @cons z y l l' hr _ ih =>
    obtain rfl | hx := List.mem_cons.1 hx
    · exact ⟨y, List.mem_cons_self, hr⟩
    · obtain ⟨w, hw, hr'⟩ := ih hx
      exact ⟨w, List.mem_cons_of_mem _ hw, hr'⟩

section
variable {known : List Text} {R : Text → Value → Value → Prop} (h : RearrangesTable known R t t')
include h

theorem RearrangesTable.nodup_left : (t.map Prod.fst).Nodup := by
  obtain ⟨kept, added, hperm, hkept, -⟩ := h.exists_perm
  have hkeys : t.map Prod.fst = kept.map Prod.fst := by
    rw [← List.forall₂_eq_eq_eq, List.forall₂_map_left_iff, List.forall₂_map_right_iff]
    exact hkept.imp fun _ _ h => h.1
  have hall := (hperm.map Prod.fst).nodup h.nodup
  rw [List.map_append, ← hkeys] at hall
  exact hall.of_append_left

/-- Under a known key both tables have a value, or neither has. -/
theorem RearrangesTable.exists_mem_iff (hkey : key ∈ known) {p p' : Value → Prop}
    (hp : ∀ v v', R key v v' → (p v ↔ p' v')) :
    (∃ v, (key, v) ∈ t ∧ p v) ↔ ∃ v, (key, v) ∈ t' ∧ p' v := by
  obtain ⟨kept, added, hperm, hkept, hadded⟩ := h.exists_perm
  constructor
  · intro hleft
    obtain ⟨v, hv, hpv⟩ := hleft
    obtain ⟨⟨k, v'⟩, hv', hk, hR⟩ := exists_of_forall₂ hkept hv
    obtain rfl : key = k := hk
    exact ⟨v', hperm.mem_iff.2 (List.mem_append_left _ hv'), (hp v v' (hR hkey)).1 hpv⟩
  · intro hright
    obtain ⟨v', hv', hpv'⟩ := hright
    obtain hv' | hv' := List.mem_append.1 (hperm.mem_iff.1 hv')
    · obtain ⟨⟨k, v⟩, hv, hk, hR⟩ := exists_of_forall₂ hkept.flip hv'
      obtain rfl : k = key := hk
      exact ⟨v, hv, (hp v v' (hR hkey)).2 hpv'⟩
    · exact absurd hkey (hadded _ hv')

theorem RearrangesTable.gives_iff (hkey : key ∈ known)
    (hspells : ∀ v v', R key v v' → (spells v a ↔ spells v' a)) :
    Gives t key spells d a ↔ Gives t' key spells d a := by
  have hany : (∃ v, (key, v) ∈ t ∧ True) ↔ ∃ v, (key, v) ∈ t' ∧ True :=
    h.exists_mem_iff hkey fun _ _ _ => .rfl
  have hkeys : key ∈ t.map Prod.fst ↔ key ∈ t'.map Prod.fst := by simpa using hany
  rw [Gives, Gives, h.exists_mem_iff hkey hspells, hkeys]

end

end

/-! ## Fields -/

structure RecordField (α : Type) where
  key : Text
  Content : Type
  decode : Value → Except DecodeFault Content
  get : α → Content
  set : α → Content → α

def fieldsOf {α : Type} : List (RecordField α) → Fields α
  | [], _, r, _ => .ok r
  | f :: schema, key, r, v => if key = f.key then f.set r <$> f.decode v else fieldsOf schema key r v

structure IsRecord {α : Type} (schema : List (RecordField α)) : Prop where
  nodup : (schema.map (·.key)).Nodup
  get_set : ∀ f ∈ schema, ∀ r x, f.get (f.set r x) = x
  get_set_of_ne : ∀ f ∈ schema, ∀ g ∈ schema, f.key ≠ g.key → ∀ r x, g.get (f.set r x) = g.get r
  ext : ∀ r r', (∀ f ∈ schema, f.get r = f.get r') → r = r'

section
variable {α : Type} {schema : List (RecordField α)}

/-- The equation at a field that is given by its parts, without projections of them. -/
theorem fieldsOf_cons {k : Text} {C : Type} {decode : Value → Except DecodeFault C} {get : α → C}
    {set : α → C → α} (key : Text) (r : α) (v : Value) :
    fieldsOf (⟨k, C, decode, get, set⟩ :: schema) key r v =
      if key = k then set r <$> decode v else fieldsOf schema key r v := rfl

theorem fieldsOf_of_mem (hkeys : (schema.map (·.key)).Nodup) {f : RecordField α} (hf : f ∈ schema)
    (r : α) (v : Value) : fieldsOf schema f.key r v = f.set r <$> f.decode v := by
  induction schema with
  | nil => exact absurd hf List.not_mem_nil
  | cons g schema ih =>
    obtain ⟨hg, hrest⟩ := List.nodup_cons.1 hkeys
    obtain rfl | hf := List.mem_cons.1 hf
    · rw [fieldsOf, if_pos rfl]
    · have hne : f.key ≠ g.key := fun h => hg (List.mem_map.2 ⟨f, hf, h⟩)
      rw [fieldsOf, if_neg hne, ih hrest hf]

theorem fieldsOf_of_notMem {key : Text} (hkey : key ∉ schema.map (·.key)) (r : α) (v : Value) :
    fieldsOf schema key r v = .ok r := by
  induction schema with
  | nil => rfl
  | cons g schema ih =>
    rw [List.map_cons, List.mem_cons, not_or] at hkey
    rw [fieldsOf, if_neg hkey.1, ih hkey.2]

end

def RecordField.Reads {α : Type} (f : RecordField α) (start : α) (t : Table) (r : α) : Prop :=
  Gives t f.key (fun v x => f.decode v = .ok x) (f.get start) (f.get r)

namespace IsRecord

variable {α : Type} {schema : List (RecordField α)} (h : IsRecord schema) {t t' : Table} {start r : α}
include h

/-- The order of the keys does not count, and neither do keys that are no fields. -/
theorem decodeEntries_eq_ok_iff (ht : (t.map Prod.fst).Nodup) :
    decodeEntries (fieldsOf schema) start t = .ok r ↔ ∀ f ∈ schema, f.Reads start t r := by
  induction t generalizing start with
  | nil =>
    have hreads : ∀ f : RecordField α, f.Reads start [] r ↔ f.get r = f.get start := fun f =>
      gives_iff_of_notMem List.not_mem_nil
    simp only [hreads]
    constructor
    · intro heq f _
      obtain rfl : start = r := Except.ok.inj heq
      rfl
    · exact fun hget => congrArg _ (h.ext _ _ hget).symm
  | cons e t ih =>
    obtain ⟨k, v⟩ := e
    obtain ⟨hk, hrest⟩ := List.nodup_cons.1 ht
    have hstep : decodeEntries (fieldsOf schema) start ((k, v) :: t) =
      fieldsOf schema k start v >>= fun r => decodeEntries (fieldsOf schema) r t := rfl
    rw [hstep]
    by_cases hknown : k ∈ schema.map (·.key)
    · obtain ⟨f, hf, rfl⟩ := List.mem_map.1 hknown
      rw [fieldsOf_of_mem h.nodup hf]
      cases hv : f.decode v with
      | error fault =>
        refine iff_of_false nofun fun hall => ?_
        have hread := (gives_cons_self hk).1 (hall f hf)
        rw [hv] at hread
        cases hread
      | ok x =>
        -- the rest of the table has no second value for `f` and finds all else as it was in `start`
        refine (ih hrest).trans (forall₂_congr fun g hg => ?_)
        by_cases hgf : g.key = f.key
        · obtain rfl : g = f := List.inj_on_of_nodup_map h.nodup hg hf hgf
          rw [RecordField.Reads, RecordField.Reads, gives_iff_of_notMem hk, gives_cons_self hk,
            h.get_set g hg, hv, Except.ok.injEq, eq_comm]
        · rw [RecordField.Reads, RecordField.Reads, gives_cons_of_ne hgf,
            h.get_set_of_ne f hf g hg (Ne.symm hgf)]
    · rw [fieldsOf_of_notMem hknown]
      refine (ih hrest).trans (forall₂_congr fun g hg => ?_)
      have hne : g.key ≠ k := fun hgk => hknown (hgk ▸ List.mem_map_of_mem hg)
      rw [RecordField.Reads, RecordField.Reads, gives_cons_of_ne hne]

theorem decodeEntries_iff_of_rearranges {R : Text → Value → Value → Prop}
    (ht : RearrangesTable (schema.map (·.key)) R t t')
    (hR : ∀ f ∈ schema, ∀ v v', R f.key v v' → ∀ x, f.decode v = .ok x ↔ f.decode v' = .ok x) :
    decodeEntries (fieldsOf schema) start t = .ok r ↔ decodeEntries (fieldsOf schema) start t' = .ok r := by
  rw [h.decodeEntries_eq_ok_iff ht.nodup_left, h.decodeEntries_eq_ok_iff ht.nodup]
  refine forall₂_congr fun f hf => ht.gives_iff (List.mem_map_of_mem hf) fun v v' hv => hR f hf v v' hv _

theorem decodeRecord_table_eq_ok_iff {expected : Expected} {names : List Text}
    (ht : (t.map Prod.fst).Nodup) :
    decodeRecord expected names (fieldsOf schema) start (.table t) = .ok r ↔
      ∀ f ∈ schema, f.Reads start t r :=
  h.decodeEntries_eq_ok_iff ht

theorem decodeRecord_iff_of_rearranges {expected : Expected} {names : List Text} {v v' : Value}
    (hv : RearrangesValue (schema.map (·.key)) v v') :
    decodeRecord expected names (fieldsOf schema) start v = .ok r ↔
      decodeRecord expected names (fieldsOf schema) start v' = .ok r := by
  cases hv with
  | same => rfl
  | table ht => exact h.decodeEntries_iff_of_rearranges ht fun f _ v v' heq x => by rw [heq]

end IsRecord

end Wiring
