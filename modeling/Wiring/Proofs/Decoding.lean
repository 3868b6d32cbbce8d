import Wiring.Proofs.Spelling

/-!
# Reading manifests

Whichever table spells a manifest, it is read as that manifest, and what is read does not change with
the order of the keys or with keys that are not known. Main statement:
`Manifest.ofTable_inverts_spelling`.
-/

namespace Wiring

open Toml (Value Table)

/-! ## Reading values -/

theorem SpellsText.decodeText_eq {v : Value} {s : Text} (h : SpellsText v s) : decodeText v = .ok s := by
  rw [h]
  rfl

theorem SpellsPresent.some_decodeText_eq {v : Value} {o : Option Text} (h : SpellsPresent v o) :
    some <$> decodeText v = .ok o := by
  obtain ⟨s, hs, rfl⟩ := h
  rw [hs.decodeText_eq]
  rfl

theorem decodeLine_toNat (n : UInt32) : decodeLine (.integer n.toNat) = .ok n := by
  have hrange : 0 ≤ (n.toNat : Int) ∧ (n.toNat : Int) < UInt32.size :=
    ⟨Int.natCast_nonneg _, Int.ofNat_lt.2 n.toNat_lt_size⟩
  rw [decodeLine, if_pos hrange, Int.toNat_natCast, UInt32.ofNat_toNat]

section
variable {α : Type} {decode : Value → Except DecodeFault α}

theorem SpellsList.decodeList_eq {spells : Value → α → Prop}
    (hdecode : ∀ v a, spells v a → decode v = .ok a) {v : Value} {as : List α}
    (h : SpellsList spells v as) : decodeList decode v = .ok as := by
  obtain ⟨vs, rfl, hvs⟩ := h
  rw [decodeList]
  induction hvs with
  | nil => rfl
  | cons ha _ ih =>
    rw [List.mapM_cons, hdecode _ _ ha, ih]
    rfl

theorem mapM_eq_ok_iff_of_forall₂ {vs vs' : List Value}
    (h : List.Forall₂ (fun v v' => ∀ a, decode v = .ok a ↔ decode v' = .ok a) vs vs') {as : List α} :
    vs.mapM decode = .ok as ↔ vs'.mapM decode = .ok as := by
  induction h generalizing as with
  | nil => rfl
  | cons hv _ ih => simp only [List.mapM_cons, bind_eq_ok_iff, hv, ih]

end

/-! ## Fields -/

def Dependency.schema : List (RecordField Dependency) :=
  [⟨"type".toList, Text, decodeText, (·.type), fun d s => { d with type := s }⟩,
    ⟨"name".toList, Text, decodeText, (·.name), fun d s => { d with name := s }⟩,
    ⟨"import".toList, Option Text, (some <$> decodeText ·), (·.imported),
      fun d o => { d with imported := o }⟩]

def Accessors.schema : List (RecordField Accessors) :=
  [⟨"setter".toList, Text, decodeText, (·.setter), fun a s => { a with setter := s }⟩,
    ⟨"current_getter".toList, Text, decodeText, (·.currentGetter),
      fun a s => { a with currentGetter := s }⟩,
    ⟨"parent_getter".toList, Text, decodeText, (·.parentGetter),
      fun a s => { a with parentGetter := s }⟩]

def PartialFix.schema : List (RecordField PartialFix) :=
  [⟨"controller".toList, Option Text, (some <$> decodeText ·), (·.controller),
      fun f o => { f with controller := o }⟩,
    ⟨"entity".toList, Option Text, (some <$> decodeText ·), (·.entity),
      fun f o => { f with entity := o }⟩,
    ⟨"method".toList, Option Text, (some <$> decodeText ·), (·.method),
      fun f o => { f with method := o }⟩,
    ⟨"line".toList, Option UInt32, (some <$> decodeLine ·), (·.line), fun f o => { f with line := o }⟩,
    ⟨"inherit_from".toList, Option Text, (some <$> decodeText ·), (·.inheritFrom),
      fun f o => { f with inheritFrom := o }⟩]

abbrev Manifest.dependencyField : RecordField Manifest :=
  ⟨"dependency".toList, Dependency, decodeDependency, (·.dependency),
    fun m d => { m with dependency := d }⟩

abbrev Manifest.accessorsField : RecordField Manifest :=
  ⟨"plan".toList, Accessors, decodeAccessors, (·.accessors), fun m a => { m with accessors := a }⟩

abbrev Manifest.fixesField : RecordField Manifest :=
  ⟨"fix".toList, List Fix, decodeList decodeFix, (·.fixes), fun m fs => { m with fixes := fs }⟩

def Manifest.schema : List (RecordField Manifest) :=
  [⟨"path_template".toList, Text, decodeText, (·.pathTemplate),
      fun m s => { m with pathTemplate := s }⟩,
    ⟨"extend".toList, List Text, decodeList decodeText, (·.extend),
      fun m names => { m with extend := names }⟩,
    ⟨"create".toList, List Text, decodeList decodeText, (·.create),
      fun m names => { m with create := names }⟩,
    dependencyField, accessorsField, fixesField]

theorem Dependency.field_eq : field = fieldsOf schema := by
  funext key d v
  rw [field, schema, fieldsOf_cons, fieldsOf_cons, fieldsOf_cons, fieldsOf]
  simp only [bind_pure_comp, Functor.map_map]

theorem Accessors.field_eq : field = fieldsOf schema := by
  funext key a v
  rw [field, schema, fieldsOf_cons, fieldsOf_cons, fieldsOf_cons, fieldsOf]
  simp only [bind_pure_comp]

theorem PartialFix.field_eq : field = fieldsOf schema := by
  funext key f v
  rw [field, schema, fieldsOf_cons, fieldsOf_cons, fieldsOf_cons, fieldsOf_cons, fieldsOf_cons, fieldsOf]
  simp only [bind_pure_comp, Functor.map_map]

theorem Manifest.field_eq : field = fieldsOf schema := by
  funext key m v
  rw [field, schema, fieldsOf_cons, fieldsOf_cons, fieldsOf_cons, fieldsOf_cons, fieldsOf_cons,
    fieldsOf_cons, fieldsOf]
  simp only [bind_pure_comp]

theorem Dependency.map_key_schema : schema.map (·.key) = keys := by
  simp only [schema, List.map_cons, List.map_nil, keys]

theorem Dependency.isRecord : IsRecord schema where
  nodup := map_key_schema ▸ nodup_keys
  get_set := by simp [schema]
  get_set_of_ne := by simp [schema]
  ext d d' h := by
    cases d; cases d'
    simpa [schema] using h

theorem Accessors.map_key_schema : schema.map (·.key) = keys := by
  simp only [schema, List.map_cons, List.map_nil, keys]

theorem Accessors.isRecord : IsRecord schema where
  nodup := map_key_schema ▸ nodup_keys
  get_set := by simp [schema]
  get_set_of_ne := by simp [schema]
  ext a a' h := by
    cases a; cases a'
    simpa [schema] using h

theorem PartialFix.map_key_schema : schema.map (·.key) = Fix.keys := by
  simp only [schema, List.map_cons, List.map_nil, Fix.keys]

theorem PartialFix.isRecord : IsRecord schema where
  nodup := map_key_schema ▸ Fix.nodup_keys
  get_set := by simp [schema]
  get_set_of_ne := by simp [schema]
  ext f f' h := by
    cases f; cases f'
    simpa [schema] using h

theorem Manifest.map_key_schema : schema.map (·.key) = keys := by
  simp only [schema, List.map_cons, List.map_nil, keys]

theorem Manifest.isRecord : IsRecord schema where
  nodup := map_key_schema ▸ nodup_keys
  get_set := by simp [schema]
  get_set_of_ne := by simp [schema]
  ext m m' h := by
    cases m; cases m'
    simpa [schema] using h

def Fix.toPartial (f : Fix) : PartialFix :=
  ⟨some f.controller, some f.entity, some f.method, some f.line, f.inheritFrom⟩

theorem required_eq_ok_iff {α : Type} {fault : DecodeFault} {o : Option α} {a : α} :
    required fault o = .ok a ↔ o = some a := by
  cases o <;> simp [required]

theorem PartialFix.complete_eq_ok_iff {fault : Text → Nat → DecodeFault} {p : PartialFix} {f : Fix} :
    p.complete fault = .ok f ↔ p = f.toPartial := by
  simp only [complete, bind_eq_ok_iff, required_eq_ok_iff]
  constructor
  · intro h
    obtain ⟨controller, hc, entity, he, method, hm, line, hl, hf⟩ := h
    obtain rfl := Except.ok.inj hf
    cases p
    subst hc he hm hl
    rfl
  · intro h
    rw [h]
    exact ⟨_, rfl, _, rfl, _, rfl, _, rfl, rfl⟩

theorem decodeFix_eq_ok_iff {v : Value} {f : Fix} : decodeFix v = .ok f ↔
    decodeRecord .fix (PartialFix.schema.map (·.key)) (fieldsOf PartialFix.schema) {} v = .ok f.toPartial := by
  rw [decodeFix, bind_eq_ok_iff, PartialFix.field_eq]
  simp only [PartialFix.complete_eq_ok_iff]
  exact exists_eq_right

/-! ## Reading what is spelled -/

theorem Dependency.decode_of_spelled {v : Value} {d : Dependency}
    (h : SpellsRecord SpelledBy v d) : decodeDependency v = .ok d := by
  obtain ⟨t, rfl, h⟩ := h
  rw [decodeDependency, field_eq, isRecord.decodeRecord_table_eq_ok_iff h.nodup]
  simp only [schema, List.forall_mem_cons, RecordField.Reads]
  exact ⟨h.type.imp fun _ hv => hv.decodeText_eq, h.name.imp fun _ hv => hv.decodeText_eq,
    h.imported.imp fun _ hv => hv.some_decodeText_eq, List.forall_mem_nil _⟩

theorem Accessors.decode_of_spelled {v : Value} {a : Accessors}
    (h : SpellsRecord SpelledBy v a) : decodeAccessors v = .ok a := by
  obtain ⟨t, rfl, h⟩ := h
  rw [decodeAccessors, field_eq, isRecord.decodeRecord_table_eq_ok_iff h.nodup]
  simp only [schema, List.forall_mem_cons, RecordField.Reads]
  exact ⟨h.setter.imp fun _ hv => hv.decodeText_eq, h.currentGetter.imp fun _ hv => hv.decodeText_eq,
    h.parentGetter.imp fun _ hv => hv.decodeText_eq, List.forall_mem_nil _⟩

theorem Fix.decode_of_spelled {v : Value} {f : Fix} (h : SpellsRecord SpelledBy v f) :
    decodeFix v = .ok f := by
  obtain ⟨t, rfl, h⟩ := h
  rw [decodeFix_eq_ok_iff, PartialFix.isRecord.decodeRecord_table_eq_ok_iff h.nodup]
  simp only [PartialFix.schema, List.forall_mem_cons, RecordField.Reads]
  refine ⟨.inl ⟨_, h.controller, rfl⟩, .inl ⟨_, h.entity, rfl⟩, .inl ⟨_, h.method, rfl⟩,
    .inl ⟨_, h.line, ?_⟩, h.inheritFrom.imp fun _ hv => hv.some_decodeText_eq, List.forall_mem_nil _⟩
  show some <$> decodeLine _ = _
  rw [decodeLine_toNat]
  rfl

theorem Manifest.ofTable_of_spelled {m : Manifest} {t : Table} (h : m.SpelledBy t) :
    ofTable t = .ok m := by
  have hnames : ∀ v names, SpellsList SpellsText v names → decodeList decodeText v = .ok names :=
    fun _ _ hv => hv.decodeList_eq fun _ _ hs => hs.decodeText_eq
  rw [ofTable, field_eq, isRecord.decodeEntries_eq_ok_iff h.nodup]
  simp only [schema, List.forall_mem_cons, RecordField.Reads]
  exact ⟨h.pathTemplate.imp fun _ hv => hv.decodeText_eq, h.extend.imp fun _ hv => hnames _ _ hv,
    h.create.imp fun _ hv => hnames _ _ hv, h.dependency.imp fun _ hv => Dependency.decode_of_spelled hv,
    h.accessors.imp fun _ hv => Accessors.decode_of_spelled hv,
    h.fixes.imp fun _ hv => hv.decodeList_eq fun _ _ hf => Fix.decode_of_spelled hf, List.forall_mem_nil _⟩

/-! ## Reading what is rearranged -/

inductive Manifest.RearrangesField : Text → Value → Value → Prop
  | same (key : Text) (v : Value) : RearrangesField key v v
  | dependency {v v' : Value} (h : RearrangesValue Dependency.keys v v') :
    RearrangesField "dependency".toList v v'
  | accessors {v v' : Value} (h : RearrangesValue Accessors.keys v v') :
    RearrangesField "plan".toList v v'
  | fixes {vs vs' : List Value} (h : List.Forall₂ (RearrangesValue Fix.keys) vs vs') :
    RearrangesField "fix".toList (.array vs) (.array vs')

section
variable {v v' : Value}

theorem Dependency.decode_iff_of_rearranges (h : RearrangesValue keys v v') {d : Dependency} :
    decodeDependency v = .ok d ↔ decodeDependency v' = .ok d := by
  rw [← map_key_schema] at h
  rw [decodeDependency, field_eq]
  exact isRecord.decodeRecord_iff_of_rearranges h

theorem Accessors.decode_iff_of_rearranges (h : RearrangesValue keys v v') {a : Accessors} :
    decodeAccessors v = .ok a ↔ decodeAccessors v' = .ok a := by
  rw [← map_key_schema] at h
  rw [decodeAccessors, field_eq]
  exact isRecord.decodeRecord_iff_of_rearranges h

theorem Fix.decode_iff_of_rearranges (h : RearrangesValue keys v v') {f : Fix} :
    decodeFix v = .ok f ↔ decodeFix v' = .ok f := by
  rw [← PartialFix.map_key_schema] at h
  rw [decodeFix_eq_ok_iff, decodeFix_eq_ok_iff]
  exact PartialFix.isRecord.decodeRecord_iff_of_rearranges h

theorem Manifest.decode_iff_of_rearranges {f : RecordField Manifest} (hf : f ∈ schema)
    (h : RearrangesField f.key v v') (x : f.Content) : f.decode v = .ok x ↔ f.decode v' = .ok x := by
  -- the key says which field it is
  have hfield : ∀ g ∈ schema, f.key = g.key → f = g := fun g hg hkey =>
    List.inj_on_of_nodup_map isRecord.nodup hf hg hkey
  generalize hkey : f.key = key at h
  cases h with
  | same => rfl
  | dependency h =>
    obtain rfl := hfield dependencyField (by simp [schema]) hkey
    exact Dependency.decode_iff_of_rearranges h
  | accessors h =>
    obtain rfl := hfield accessorsField (by simp [schema]) hkey
    exact Accessors.decode_iff_of_rearranges h
  | fixes h =>
    obtain rfl := hfield fixesField (by simp [schema]) hkey
    exact mapM_eq_ok_iff_of_forall₂ (h.imp fun _ _ hv _ => Fix.decode_iff_of_rearranges hv)

end

def Manifest.Rearranges : Table → Table → Prop := RearrangesTable keys RearrangesField

theorem Manifest.ofTable_iff_of_rearranges {m : Manifest} {t t' : Table} (h : Rearranges t t') :
    ofTable t = .ok m ↔ ofTable t' = .ok m := by
  rw [Rearranges, ← map_key_schema] at h
  rw [ofTable, ofTable, field_eq]
  exact isRecord.decodeEntries_iff_of_rearranges h fun f hf _ _ hv => decode_iff_of_rearranges hf hv

/-- Every manifest is spelled by a table, a table that spells it is read as it, and so is a table whose
keys are in another order or that has more keys. -/
theorem Manifest.ofTable_inverts_spelling (m : Manifest) :
    m.SpelledBy m.toTable ∧ (∀ t, m.SpelledBy t → ofTable t = .ok m) ∧
    ∀ t t', Rearranges t t' → (ofTable t = .ok m ↔ ofTable t' = .ok m) :=
  ⟨m.spelledBy_toTable, fun _ h => ofTable_of_spelled h, fun _ _ h => ofTable_iff_of_rearranges h⟩

def clockManifest : Manifest where
  create := ["Api/B".toList]
  dependency := { name := "clock".toList, imported := some "App\\Clock".toList }
  fixes := [⟨"A.php".toList, "Order".toList, "add".toList, 3, none⟩,
    ⟨"A.php".toList, "Line".toList, "add".toList, 9, some "order".toList⟩]

/-- Its dependency without the type, and with a key of the accessors. -/
def clockTable : Table :=
  [("import".toList, .string "App\\Clock".toList), ("setter".toList, .integer 1),
    ("name".toList, .string "clock".toList)]

def orderTable : Table :=
  [("line".toList, .integer 3), ("entity".toList, .string "Order".toList),
    ("method".toList, .string "add".toList), ("controller".toList, .string "A.php".toList)]

def lineTable : Table :=
  [("inherit_from".toList, .string "order".toList), ("controller".toList, .string "A.php".toList),
    ("entity".toList, .string "Line".toList), ("method".toList, .string "add".toList),
    ("note".toList, .array []), ("line".toList, .integer 9)]

def shuffledTable : Table :=
  [("fix".toList, .array [.table orderTable, .table lineTable]), ("version".toList, .integer 2),
    ("dependency".toList, .table clockTable), ("create".toList, .array [.string "Api/B".toList])]

def annotatedTable : Table :=
  [("comment".toList, .boolean true), ("create".toList, .array [.string "Api/B".toList]),
    ("dependency".toList, .table clockTable), ("version".toList, .integer 3),
    ("fix".toList, .array
      [.table (("done".toList, .boolean false) :: orderTable.reverse), .table lineTable])]

theorem Manifest.ofTable_inverts_spelling_shuffledTable :
    clockManifest.SpelledBy shuffledTable ∧ ofTable shuffledTable = .ok clockManifest ∧
      Rearranges shuffledTable annotatedTable ∧ ofTable annotatedTable = .ok clockManifest := by
  have hclock : clockManifest.dependency.SpelledBy clockTable :=
    { nodup := by decide
      type := .inr ⟨by decide, rfl⟩
      name := .inl ⟨_, .tail _ (.tail _ (.head _)), rfl⟩
      imported := .inl ⟨_, .head _, _, rfl, rfl⟩ }
  have horder : Fix.SpelledBy ⟨"A.php".toList, "Order".toList, "add".toList, 3, none⟩ orderTable :=
    { nodup := by decide
      controller := .tail _ (.tail _ (.tail _ (.head _)))
      entity := .tail _ (.head _)
      method := .tail _ (.tail _ (.head _))
      line := .head _
      inheritFrom := .inr ⟨by decide, rfl⟩ }
  have hline : Fix.SpelledBy ⟨"A.php".toList, "Line".toList, "add".toList, 9, some "order".toList⟩
      lineTable :=
    { nodup := by decide
      controller := .tail _ (.head _)
      entity := .tail _ (.tail _ (.head _))
      method := .tail _ (.tail _ (.tail _ (.head _)))
      line := .tail _ (.tail _ (.tail _ (.tail _ (.tail _ (.head _)))))
      inheritFrom := .inl ⟨_, .head _, _, rfl, rfl⟩ }
  have hspelled : clockManifest.SpelledBy shuffledTable :=
    { nodup := by decide
      pathTemplate := .inr ⟨by decide, rfl⟩
      extend := .inr ⟨by decide, rfl⟩
      create := .inl ⟨_, .tail _ (.tail _ (.tail _ (.head _))), _, rfl, .cons rfl .nil⟩
      dependency := .inl ⟨_, .tail _ (.tail _ (.head _)), _, rfl, hclock⟩
      accessors := .inr ⟨by decide, rfl⟩
      fixes := .inl ⟨_, .head _, _, rfl, .cons ⟨_, rfl, horder⟩ (.cons ⟨_, rfl, hline⟩ .nil)⟩ }
  have hfix : RearrangesValue Fix.keys (.table orderTable)
      (.table (("done".toList, .boolean false) :: orderTable.reverse)) := by
    refine .table (.of_perm (by decide) (((List.reverse_perm orderTable).cons _).trans
      (List.perm_append_singleton _ _).symm) ?_ fun _ _ => rfl)
    rw [List.forall_mem_singleton]
    decide
  have hrearranges : Rearranges shuffledTable annotatedTable := by
    refine ⟨by decide, [_, _, _, _], [_], List.reverse_perm [_, _, _, _, _], ?_, ?_⟩
    · exact .cons ⟨rfl, fun _ => .fixes (.cons hfix (.cons (.same _) .nil))⟩
        (.cons ⟨rfl, fun h => absurd h (by decide)⟩
          (.cons ⟨rfl, fun _ => .same _ _⟩ (.cons ⟨rfl, fun _ => .same _ _⟩ .nil)))
    · rw [List.forall_mem_singleton]
      decide
  obtain ⟨-, hread, hkeep⟩ := Manifest.ofTable_inverts_spelling clockManifest
  exact ⟨hspelled, hread _ hspelled, hrearranges, (hkeep _ _ hrearranges).1 (hread _ hspelled)⟩

end Wiring
