import Mathlib.Data.List.Forall2
import Mathlib.Data.List.Perm.Basic
import SchemaMigration.Json.Codec
import SchemaMigration.Proofs.JsonReading

/-!
# Records there and back

A record is written as an object, but an object that says the same can look otherwise: its fields
stand in any order, one that holds its default may be missing, and others come in between where they
are skipped. It is read as the same record. An object that gives a declared field twice is refused,
and so is one that gives another where those are not skipped.
-/

namespace SchemaMigration

namespace Json

/-! ## What may be written for a record -/

/-- A declared field, and what a record may say in it. -/
structure FieldForm where
  name : String
  /-- It holds what is taken for it when it is missing. -/
  IsDefault : Prop
  Writes : Json → Prop

/-- Declared fields with what is written in them. Only what holds its default may be missing. -/
inductive Gives : List FieldForm → List (String × Json) → Prop
  | nil : Gives [] []
  | given {f : FieldForm} {form : List FieldForm} {given : List (String × Json)} {v : Json}
    (hv : f.Writes v) (h : Gives form given) : Gives (f :: form) ((f.name, v) :: given)
  | missing {f : FieldForm} {form : List FieldForm} {given : List (String × Json)}
    (hdefault : f.IsDefault) (h : Gives form given) : Gives (f :: form) given

/-- Fields as they stand in an object. -/
def keyed (given : List (String × Json)) : List (JsonText × Json) :=
  given.map fun f => (some f.1, f.2)

def IsScalar : Json → Prop
  | array _ | object _ => False
  | _ => True

/-- An object that says what a record of this form does. -/
def Tells (unknown : UnknownFields) (form : List FieldForm) (v : Json) : Prop :=
  ∃ given others fields, v = .object fields ∧ Gives form given ∧
    fields.Perm (keyed (given ++ others)) ∧
    ∀ f ∈ others, unknown = .skipped ∧ f.1 ∉ form.map FieldForm.name ∧ f.2.IsScalar

def Undeclared (names : List String) (fields : List (JsonText × Json)) : Prop :=
  ∃ f ∈ fields, f.1 ∉ names.map some

def Repeated (names : List String) (fields : List (JsonText × Json)) : Prop :=
  ∃ name ∈ names, 2 ≤ (fields.map Prod.fst).count (some name)

/-! ## The fields of an object -/

/-- What is found for a field. -/
inductive FieldForm.Admits (f : FieldForm) : Option Json → Prop
  | given {v : Json} (hv : f.Writes v) : f.Admits (some v)
  | missing (hdefault : f.IsDefault) : f.Admits none

section

variable {unknown : UnknownFields} {form : List FieldForm} {given others : List (String × Json)}
  {fields : List (JsonText × Json)} {names : List String} {name : String} {v : Json}

theorem valuesOf_append (fields fields' : List (JsonText × Json)) :
    valuesOf name (fields ++ fields') = valuesOf name fields ++ valuesOf name fields' :=
  List.filterMap_append

theorem valuesOf_keyed_eq_nil (h : ∀ f ∈ given, f.1 ≠ name) :
    valuesOf name (keyed given) = [] := by
  rw [valuesOf, keyed, List.filterMap_map, List.filterMap_eq_nil_iff]
  intro f hf
  exact if_neg fun heq => h f hf (Option.some.inj heq)

theorem valuesOf_keyed_cons_self (name : String) (v : Json) (given : List (String × Json)) :
    valuesOf name (keyed ((name, v) :: given)) = v :: valuesOf name (keyed given) := by
  simp [valuesOf, keyed]

theorem valuesOf_keyed_cons_of_ne {f : String × Json} (h : f.1 ≠ name)
    (given : List (String × Json)) :
    valuesOf name (keyed (f :: given)) = valuesOf name (keyed given) := by
  simp [valuesOf, keyed, h]

theorem length_valuesOf (name : String) (fields : List (JsonText × Json)) :
    (valuesOf name fields).length = (fields.map Prod.fst).count (some name) := by
  induction fields with
  | nil => rfl
  | cons f fields ih =>
    obtain ⟨key, v⟩ := f
    by_cases hkey : key = some name <;> simpa [valuesOf, hkey] using ih

theorem Gives.name_mem (h : Gives form given) {f : String × Json} (hf : f ∈ given) :
    f.1 ∈ form.map FieldForm.name := by
  induction h with
  | nil => cases hf
  | given hv _ ih =>
    rcases List.mem_cons.1 hf with rfl | hf
    · exact List.mem_cons_self
    · exact List.mem_cons_of_mem _ (ih hf)
  | missing _ _ ih => exact List.mem_cons_of_mem _ (ih hf)

theorem Gives.exists_single? (h : Gives form given) (hnodup : (form.map FieldForm.name).Nodup)
    {f : FieldForm} (hf : f ∈ form) :
    ∃ value, single? (valuesOf f.name (keyed given)) = some value ∧ f.Admits value := by
  induction h with
  | nil => cases hf
  | @given g form given v hv h ih =>
    obtain ⟨hname, hnodup⟩ := List.nodup_cons.1 hnodup
    rcases List.mem_cons.1 hf with rfl | hf
    · have hrest : valuesOf f.name (keyed given) = [] :=
        valuesOf_keyed_eq_nil fun e he heq => hname (heq ▸ h.name_mem he)
      exact ⟨some v, by rw [valuesOf_keyed_cons_self, hrest, single?], .given hv⟩
    · have hne : g.name ≠ f.name := fun heq => hname (heq ▸ List.mem_map_of_mem hf)
      rw [valuesOf_keyed_cons_of_ne hne]
      exact ih hnodup hf
  | missing hdefault h ih =>
    obtain ⟨hname, hnodup⟩ := List.nodup_cons.1 hnodup
    rcases List.mem_cons.1 hf with rfl | hf
    · have hnone : valuesOf f.name (keyed _) = [] :=
        valuesOf_keyed_eq_nil fun e he heq => hname (heq ▸ h.name_mem he)
      exact ⟨none, by rw [hnone, single?], .missing hdefault⟩
    · exact ih hnodup hf

theorem single?_eq_some_of_perm {vs ws : List Json} {value : Option Json} (hperm : vs.Perm ws)
    (h : single? ws = some value) : single? vs = some value := by
  match ws, h with
  | [], h => rwa [List.perm_nil.1 hperm]
  | [w], h => rwa [List.perm_singleton.1 hperm]

theorem mapM_eq_some_of_forall₂ {α β : Type} {g : α → Option β} {l : List α} {r : List β}
    (h : List.Forall₂ (fun a b => g a = some b) l r) : l.mapM g = some r := by
  induction h with
  | nil => rfl
  | cons hab _ ih =>
    rw [List.mapM_cons, hab, ih]
    rfl

theorem exists_forall₂ {α β : Type} {R : α → β → Prop} {l : List α} (h : ∀ a ∈ l, ∃ b, R a b) :
    ∃ r, List.Forall₂ R l r := by
  induction l with
  | nil => exact ⟨[], .nil⟩
  | cons a l ih =>
    obtain ⟨b, hb⟩ := h a List.mem_cons_self
    obtain ⟨r, hr⟩ := ih fun a ha => h a (List.mem_cons_of_mem _ ha)
    exact ⟨b :: r, .cons hb hr⟩

theorem recordFields?_object (h : ∀ f ∈ fields, allowedKey unknown names f.1 = true) :
    recordFields? unknown names (.object fields) =
      names.mapM fun name => single? (valuesOf name fields) :=
  if_pos (List.all_eq_true.2 h)

theorem Tells.exists_fields (h : Tells unknown form v) (hnodup : (form.map FieldForm.name).Nodup) :
    ∃ values, recordFields? unknown (form.map FieldForm.name) v = some values ∧
      List.Forall₂ FieldForm.Admits form values := by
  obtain ⟨given, others, fields, rfl, hgives, hperm, hothers⟩ := h
  have hallowed : ∀ f ∈ fields, allowedKey unknown (form.map FieldForm.name) f.1 = true := by
    intro f hf
    obtain ⟨e, he, rfl⟩ := List.mem_map.1 (hperm.mem_iff.1 hf)
    rcases List.mem_append.1 he with he | he
    · simp [allowedKey, hgives.name_mem he]
    · simp [allowedKey, (hothers e he).1]
  have hsingle : ∀ f ∈ form, ∃ value,
      single? (valuesOf f.name fields) = some value ∧ f.Admits value := by
    intro f hf
    obtain ⟨value, hvalue, hadmits⟩ := hgives.exists_single? hnodup hf
    refine ⟨value, single?_eq_some_of_perm (hperm.filterMap _) ?_, hadmits⟩
    have hnone : valuesOf f.name (keyed others) = [] :=
      valuesOf_keyed_eq_nil fun e he heq => (hothers e he).2.1 (heq ▸ List.mem_map_of_mem hf)
    have hvalues : valuesOf f.name (keyed (given ++ others)) = valuesOf f.name (keyed given) := by
      rw [keyed, List.map_append, ← keyed, ← keyed, valuesOf_append, hnone, List.append_nil]
    rwa [← hvalues] at hvalue
  obtain ⟨values, hvalues⟩ := exists_forall₂ hsingle
  refine ⟨values, ?_, hvalues.imp fun _ _ h => h.2⟩
  rw [recordFields?_object hallowed]
  exact mapM_eq_some_of_forall₂ (List.forall₂_map_left_iff.2 (hvalues.imp fun _ _ h => h.1))

/-! ## What is refused -/

theorem recordFields?_of_undeclared (h : Undeclared names fields) :
    recordFields? .refused names (.object fields) = none := by
  obtain ⟨⟨key, v⟩, hf, hkey⟩ := h
  have hrefused : allowedKey .refused names key = false := by
    cases key with
    | none => rfl
    | some key =>
      have hname : key ∉ names := by simpa using hkey
      simp [allowedKey, hname]
  rw [recordFields?, if_neg]
  intro hall
  have hallowed : allowedKey .refused names key = true := List.all_eq_true.1 hall _ hf
  rw [hrefused] at hallowed
  cases hallowed

theorem mapM_eq_none_of_mem {α β : Type} {g : α → Option β} {l : List α} {a : α} (ha : a ∈ l)
    (h : g a = none) : l.mapM g = none := by
  induction l with
  | nil => cases ha
  | cons b l ih =>
    rw [List.mapM_cons]
    rcases List.mem_cons.1 ha with rfl | ha
    · rw [h]
      rfl
    · rw [ih ha]
      cases g b <;> rfl

theorem recordFields?_of_repeated (h : Repeated names fields) :
    recordFields? unknown names (.object fields) = none := by
  obtain ⟨name, hname, hcount⟩ := h
  have hsingle : single? (valuesOf name fields) = none := by
    rw [← length_valuesOf] at hcount
    match valuesOf name fields, hcount with
    | _ :: _ :: _, _ => rfl
  rw [recordFields?]
  split
  · exact mapM_eq_none_of_mem hname hsingle
  · rfl

/-! ## What is read -/

theorem required?_of_admits {α : Type} {decode : Json → Option α} {Writes : Json → Prop} {a : α}
    {value : Option Json} (h : FieldForm.Admits ⟨name, False, Writes⟩ value)
    (hdecode : ∀ v, Writes v → decode v = some a) : required? decode value = some a := by
  cases h with
  | given hv => exact hdecode _ hv
  | missing hdefault => exact hdefault.elim

theorem orDefault?_of_admits {α : Type} {decode : Json → Option α} {Writes : Json → Prop}
    {a default : α} {value : Option Json}
    (h : FieldForm.Admits ⟨name, a = default, Writes⟩ value)
    (hdecode : ∀ v, Writes v → decode v = some a) :
    orDefault? decode default value = some a := by
  cases h with
  | given hv => exact hdecode _ hv
  | missing hdefault => exact congrArg some hdefault.symm

theorem nullable?_orNull {α : Type} {encode : α → Json} {decode : Json → Option α}
    (h : ∀ a, decode (encode a) = some a) (hnull : ∀ a, encode a ≠ .null) (a : Option α) :
    nullable? decode (orNull encode a) = some a := by
  cases a with
  | none => rfl
  | some a =>
    rw [orNull, nullable?, h]
    · rfl
    · exact hnull a

/-! ## What is written -/

theorem Gives.tells_record (h : Gives form given) : Tells unknown form (record given) :=
  ⟨given, [], keyed given, rfl, h, by rw [List.append_nil], nofun⟩

theorem writable_record (h : ∀ f ∈ given, f.2.Writable) : (record given).Writable := by
  refine .object ?_ ?_
  · intro f hf
    obtain ⟨e, -, rfl⟩ := List.mem_map.1 hf
    exact ⟨e.1, rfl⟩
  · intro f hf
    obtain ⟨e, he, rfl⟩ := List.mem_map.1 hf
    exact h e he

theorem writable_str (s : String) : (str s).Writable := .text s

theorem writable_orNull {α : Type} {encode : α → Json} (h : ∀ a, (encode a).Writable)
    (a : Option α) : (orNull encode a).Writable := by
  cases a with
  | none => exact .null
  | some a => exact h a

theorem asString?_str (s : String) : asString? (str s) = some s := rfl

theorem asBool?_bool (b : Bool) : asBool? (.bool b) = some b := rfl

end

/-! ## Records and their texts -/

/-- What a text is read as, if it is JSON. -/
def decode? {α : Type} (ofJson? : Json → Option α) (text : String) : Option α :=
  (parse? text).bind ofJson?

/-- A record of this type is written so that it is read back, and read from what says the same. -/
structure RoundTrips {α : Type} (toJson : α → Json) (ofJson? : Json → Option α)
    (unknown : UnknownFields) (names : List String) (form : α → List FieldForm) : Prop where
  back (a : α) : decode? ofJson? (toJson a).render = some a
  tells {a : α} {v : Json} {text : String} (htext : parse? text = some v)
    (h : Tells unknown (form a) v) : decode? ofJson? text = some a
  undeclared {fields : List (JsonText × Json)} {text : String}
    (htext : parse? text = some (.object fields)) (hunknown : unknown = .refused)
    (h : Undeclared names fields) : decode? ofJson? text = none
  repeated {fields : List (JsonText × Json)} {text : String}
    (htext : parse? text = some (.object fields)) (h : Repeated names fields) :
    decode? ofJson? text = none

theorem decode?_of_parse? {α : Type} {ofJson? : Json → Option α} {text : String} {v : Json}
    (h : parse? text = some v) : decode? ofJson? text = ofJson? v := by
  rw [decode?, h]
  rfl

theorem RoundTrips.of_tells {α : Type} {toJson : α → Json} {ofJson? : Json → Option α}
    {unknown : UnknownFields} {names : List String} {form : α → List FieldForm}
    (hwritable : ∀ a, (toJson a).Writable) (hwritten : ∀ a, Tells unknown (form a) (toJson a))
    (htells : ∀ {a v}, Tells unknown (form a) v → ofJson? v = some a)
    (hrefused : ∀ {v}, recordFields? unknown names v = none → ofJson? v = none) :
    RoundTrips toJson ofJson? unknown names form where
  back a := (decode?_of_parse? (hwritable a).parse?_render).trans (htells (hwritten a))
  tells htext h := (decode?_of_parse? htext).trans (htells h)
  undeclared htext hunknown h := by
    subst hunknown
    exact (decode?_of_parse? htext).trans (hrefused (recordFields?_of_undeclared h))
  repeated htext h := (decode?_of_parse? htext).trans (hrefused (recordFields?_of_repeated h))

end Json

open Json

/-! ## The records -/

namespace MigrationName

def form (n : MigrationName) : List FieldForm :=
  [⟨"library", False, (· = str n.library)⟩, ⟨"name", False, (· = str n.name)⟩]

theorem ofJson?_of_tells {n : MigrationName} {v : Json} (h : Tells .skipped n.form v) :
    ofJson? v = some n := by
  obtain ⟨values, hfields, hvalues⟩ := h.exists_fields (by simp [form])
  match values, hvalues with
  | [library, name], .cons hlibrary (.cons hname .nil) =>
    have hread : recordFields? .skipped ["library", "name"] v = some [library, name] := hfields
    have hlibrary : required? asString? library = some n.library :=
      required?_of_admits hlibrary fun _ h => h ▸ asString?_str _
    have hname : required? asString? name = some n.name :=
      required?_of_admits hname fun _ h => h ▸ asString?_str _
    simp [ofJson?, hread, hlibrary, hname]

theorem tells_toJson (n : MigrationName) : Tells .skipped n.form n.toJson :=
  (Gives.given rfl (.given rfl .nil)).tells_record

theorem writable_toJson (n : MigrationName) : n.toJson.Writable :=
  writable_record (List.forall_mem_cons.2
    ⟨writable_str _, List.forall_mem_singleton.2 (writable_str _)⟩)

theorem roundTrips : RoundTrips toJson ofJson? .skipped ["library", "name"] form :=
  .of_tells writable_toJson tells_toJson ofJson?_of_tells fun h => by
    rw [ofJson?, h]
    rfl

end MigrationName

namespace MigrationStatus

def form (s : MigrationStatus) : List FieldForm :=
  [⟨"done", False, (· = .bool s.done)⟩, ⟨"error", s.error = none, (· = orNull str s.error)⟩]

theorem ofJson?_of_tells {s : MigrationStatus} {v : Json} (h : Tells .skipped s.form v) :
    ofJson? v = some s := by
  obtain ⟨values, hfields, hvalues⟩ := h.exists_fields (by simp [form])
  match values, hvalues with
  | [done, error], .cons hdone (.cons herror .nil) =>
    have hread : recordFields? .skipped ["done", "error"] v = some [done, error] := hfields
    have hdone : required? asBool? done = some s.done :=
      required?_of_admits hdone fun _ h => h ▸ asBool?_bool _
    have herror : orDefault? (nullable? asString?) none error = some s.error :=
      orDefault?_of_admits herror fun _ h => h ▸ nullable?_orNull asString?_str nofun _
    simp [ofJson?, hread, hdone, herror]

theorem tells_toJson (s : MigrationStatus) : Tells .skipped s.form s.toJson :=
  (Gives.given rfl (.given rfl .nil)).tells_record

theorem writable_toJson (s : MigrationStatus) : s.toJson.Writable :=
  writable_record (List.forall_mem_cons.2
    ⟨.bool _, List.forall_mem_singleton.2 (writable_orNull writable_str _)⟩)

theorem roundTrips : RoundTrips toJson ofJson? .skipped ["done", "error"] form :=
  .of_tells writable_toJson tells_toJson ofJson?_of_tells fun h => by
    rw [ofJson?, h]
    rfl

end MigrationStatus

namespace IsolationLevel

theorem ofJson?_toJson (l : IsolationLevel) : ofJson? l.toJson = some l := ofText?_text l

end IsolationLevel

namespace TxOptions

def form (o : TxOptions) : List FieldForm :=
  [⟨"isolation_level", o.isolationLevel = none,
      (· = orNull IsolationLevel.toJson o.isolationLevel)⟩,
    ⟨"read_only", o.readOnly = false, (· = .bool o.readOnly)⟩]

theorem ofJson?_of_tells {o : TxOptions} {v : Json} (h : Tells .refused o.form v) :
    ofJson? v = some o := by
  obtain ⟨values, hfields, hvalues⟩ := h.exists_fields (by simp [form])
  match values, hvalues with
  | [level, readOnly], .cons hlevel (.cons hreadOnly .nil) =>
    have hread : recordFields? .refused ["isolation_level", "read_only"] v =
        some [level, readOnly] := hfields
    have hlevel : orDefault? (nullable? IsolationLevel.ofJson?) none level =
        some o.isolationLevel :=
      orDefault?_of_admits hlevel fun _ h =>
        h ▸ nullable?_orNull IsolationLevel.ofJson?_toJson nofun _
    have hreadOnly : orDefault? asBool? false readOnly = some o.readOnly :=
      orDefault?_of_admits hreadOnly fun _ h => h ▸ asBool?_bool _
    simp [ofJson?, hread, hlevel, hreadOnly]

theorem tells_toJson (o : TxOptions) : Tells .refused o.form o.toJson :=
  (Gives.given rfl (.given rfl .nil)).tells_record

theorem writable_toJson (o : TxOptions) : o.toJson.Writable :=
  writable_record (List.forall_mem_cons.2
    ⟨writable_orNull (fun _ => writable_str _) _, List.forall_mem_singleton.2 (.bool _)⟩)

theorem roundTrips :
    RoundTrips toJson ofJson? .refused ["isolation_level", "read_only"] form :=
  .of_tells writable_toJson tells_toJson ofJson?_of_tells fun h => by
    rw [ofJson?, h]
    rfl

end TxOptions

namespace Options

def form (o : Options) : List FieldForm :=
  [⟨"tracking_table", o.trackingTable = "libschema.migration_status", (· = str o.trackingTable)⟩,
    ⟨"schema_override", o.schemaOverride = none, (· = orNull str o.schemaOverride)⟩,
    ⟨"migration_tx", o.migrationTx = {}, Tells .refused o.migrationTx.form⟩]

theorem ofJson?_of_tells {o : Options} {v : Json} (h : Tells .refused o.form v) :
    ofJson? v = some o := by
  obtain ⟨values, hfields, hvalues⟩ := h.exists_fields (by simp [form])
  match values, hvalues with
  | [table, schema, tx], .cons htable (.cons hschema (.cons htx .nil)) =>
    have hread : recordFields? .refused ["tracking_table", "schema_override", "migration_tx"] v =
        some [table, schema, tx] := hfields
    have htable : orDefault? asString? ({} : Options).trackingTable table =
        some o.trackingTable :=
      orDefault?_of_admits htable fun _ h => h ▸ asString?_str _
    have hschema : orDefault? (nullable? asString?) ({} : Options).schemaOverride schema =
        some o.schemaOverride :=
      orDefault?_of_admits hschema fun _ h => h ▸ nullable?_orNull asString?_str nofun _
    have htx : orDefault? TxOptions.ofJson? ({} : Options).migrationTx tx = some o.migrationTx :=
      orDefault?_of_admits htx fun _ h => TxOptions.ofJson?_of_tells h
    simp [ofJson?, hread, htable, hschema, htx]

theorem tells_toJson (o : Options) : Tells .refused o.form o.toJson :=
  (Gives.given rfl (.given rfl (.given o.migrationTx.tells_toJson .nil))).tells_record

theorem writable_toJson (o : Options) : o.toJson.Writable :=
  writable_record (List.forall_mem_cons.2 ⟨writable_str _,
    List.forall_mem_cons.2 ⟨writable_orNull writable_str _,
      List.forall_mem_singleton.2 o.migrationTx.writable_toJson⟩⟩)

theorem roundTrips : RoundTrips toJson ofJson? .refused
    ["tracking_table", "schema_override", "migration_tx"] form :=
  .of_tells writable_toJson tells_toJson ofJson?_of_tells fun h => by
    rw [ofJson?, h]
    rfl

theorem ofJson?_of_migrationTx {fields : List (JsonText × Json)} {v : Json}
    (hv : (some "migration_tx", v) ∈ fields) (h : TxOptions.ofJson? v = none) :
    ofJson? (.object fields) = none := by
  have hsingle : single? (valuesOf "migration_tx" fields) = none ∨
      single? (valuesOf "migration_tx" fields) = some (some v) := by
    have hmem : v ∈ valuesOf "migration_tx" fields :=
      List.mem_filterMap.2 ⟨_, hv, if_pos rfl⟩
    match valuesOf "migration_tx" fields, hmem with
    | [w], hmem => exact .inr (List.mem_singleton.1 hmem ▸ rfl)
    | _ :: _ :: _, _ => exact .inl rfl
  rw [ofJson?, recordFields?]
  split
  · simp only [List.mapM_cons, List.mapM_nil]
    cases single? (valuesOf "tracking_table" fields) with
    | none => rfl
    | some table =>
      cases single? (valuesOf "schema_override" fields) with
      | none => rfl
      | some schema => rcases hsingle with hnone | hsome <;> simp [*, orDefault?]
  · rfl

end Options

/--
Names, statuses, transaction options and options are read back from the text that they are written
as, and from every text that says the same: in another order, without defaults or, of names and
statuses, with other scalar fields. Options and transaction options refuse a field that they do not
declare, also within options, and all refuse one that they declare and that is given twice.
-/
theorem records_round_trip :
    RoundTrips MigrationName.toJson MigrationName.ofJson? .skipped ["library", "name"]
      MigrationName.form ∧
    RoundTrips MigrationStatus.toJson MigrationStatus.ofJson? .skipped ["done", "error"]
      MigrationStatus.form ∧
    RoundTrips TxOptions.toJson TxOptions.ofJson? .refused ["isolation_level", "read_only"]
      TxOptions.form ∧
    RoundTrips Options.toJson Options.ofJson? .refused
      ["tracking_table", "schema_override", "migration_tx"] Options.form ∧
    ∀ (text : String) (fields inner : List (JsonText × Json)),
      parse? text = some (.object fields) → (some "migration_tx", .object inner) ∈ fields →
      Undeclared ["isolation_level", "read_only"] inner ∨
        Repeated ["isolation_level", "read_only"] inner →
      decode? Options.ofJson? text = none := by
  refine ⟨MigrationName.roundTrips, MigrationStatus.roundTrips, TxOptions.roundTrips,
    Options.roundTrips, fun text fields inner htext hinner h => ?_⟩
  rw [decode?_of_parse? htext]
  refine Options.ofJson?_of_migrationTx hinner ?_
  rcases h with h | h
  · rw [TxOptions.ofJson?, recordFields?_of_undeclared h]
    rfl
  · rw [TxOptions.ofJson?, recordFields?_of_repeated h]
    rfl

/--
A name is read whatever stands beside it. Options are read without their defaults, but not with a
field too many among those of their transactions.
-/
theorem records_round_trip_reordered :
    let name : MigrationName := ⟨"lib", "a\"b\n"⟩
    let named := record [("name", str "a\"b\n"), ("at", .number "-1.5e3"), ("library", str "lib")]
    let options : Options := { migrationTx := { readOnly := true } }
    let tx := record [("read_only", .bool true)]
    let set := record [("migration_tx", tx)]
    let inner := keyed [("read_only", .bool true), ("level", .null)]
    let wrong := record [("migration_tx", .object inner)]
    (parse? named.render = some named ∧ Tells .skipped name.form named ∧
      decode? MigrationName.ofJson? named.render = some name) ∧
    (parse? set.render = some set ∧ Tells .refused options.form set ∧
      decode? Options.ofJson? set.render = some options) ∧
    parse? wrong.render = some wrong ∧ Undeclared ["isolation_level", "read_only"] inner ∧
      decode? Options.ofJson? wrong.render = none := by
  intro name named options tx set inner wrong
  have hnumber : readNumber "-1.5e3".toList = some ("-1.5e3", []) := by decide +kernel
  have hname : named.Writable := writable_record (by
    simpa [writable_str] using Writable.number hnumber)
  have htx : tx.Writable := writable_record (List.forall_mem_singleton.2 (.bool true))
  have hset : set.Writable := writable_record (List.forall_mem_singleton.2 htx)
  have hinner : (record [("read_only", .bool true), ("level", .null)]).Writable :=
    writable_record (List.forall_mem_cons.2 ⟨.bool true, List.forall_mem_singleton.2 .null⟩)
  have hwrong : wrong.Writable := writable_record (List.forall_mem_singleton.2 hinner)
  have htells : Tells .skipped name.form named := by
    refine ⟨_, [("at", .number "-1.5e3")], _, rfl, .given rfl (.given rfl .nil),
      List.perm_append_singleton (some "library", str "lib") [_, _], ?_⟩
    intro f hf
    obtain rfl := List.mem_singleton.1 hf
    exact ⟨rfl, by decide, trivial⟩
  have htellsTx : Tells .refused options.migrationTx.form tx :=
    (Gives.missing rfl (.given rfl .nil)).tells_record
  have htellsSet : Tells .refused options.form set :=
    (Gives.missing rfl (.missing rfl (.given htellsTx .nil))).tells_record
  have hundeclared : Undeclared ["isolation_level", "read_only"] inner :=
    ⟨_, List.mem_cons_of_mem _ List.mem_cons_self, by decide⟩
  obtain ⟨hnames, -, -, hoptions, hnested⟩ := records_round_trip
  exact ⟨⟨hname.parse?_render, htells, hnames.tells hname.parse?_render htells⟩,
    ⟨hset.parse?_render, htellsSet, hoptions.tells hset.parse?_render htellsSet⟩,
    hwrong.parse?_render, hundeclared,
    hnested _ _ inner hwrong.parse?_render List.mem_cons_self (.inl hundeclared)⟩

end SchemaMigration
