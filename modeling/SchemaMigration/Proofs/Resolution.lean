import SchemaMigration.Proofs.Sent
import SchemaMigration.Proofs.Transactions

/-!
# Where statuses are kept

A table without a schema is looked for in the schema that is in force where the statement runs. For
a session that is the schema of its last switch, and for all else the one that the database has. So
rows may be written to another table than the one that is made and read, and here is said when.
-/

namespace SchemaMigration

/-! ## Tables -/

/-- The schema and the name of the table that a name means while this schema is in force. -/
def QualifiedName.resolve (name : QualifiedName) (schema : String) : String × String :=
  ((name.schema.map Identifier.text).getD schema, name.table.text)

theorem QualifiedName.resolve_eq_iff (name : QualifiedName) (a b : String) :
    name.resolve a = name.resolve b ↔ name.schema ≠ none ∨ a = b := by
  unfold resolve
  cases name.schema <;> simp

/-- The tracking table that a statement is about. -/
def Command.tracking? : Command → Option TrackingTable
  | createTracking table | loadStatuses table | saveStatus table => some table
  | _ => none

/-- The text of the author of a migration, if it is one. -/
def Command.own? : Command → Option String
  | script sql | custom sql => some sql
  | _ => none

def Call.command? (c : Call) : Option Command := c.statement?.map Prod.fst

/-! ## Schemas in force -/

section

variable (uses : String → Option String)

/-- The schema that a statement switches to. Of an author's text, `uses` tells. -/
def Command.switch? : Command → Option String
  | useSchema schema => some schema.text
  | command => command.own?.bind uses

/-- The session that an event switches to a schema, with that schema. -/
def Event.switch? : Event → Option (SessionId × String)
  | .drop _ => none
  | .call c => do return (← c.session?, ← (← c.command?).switch? uses)

/-- The schemas in force for calls of each session, and for those of none. -/
abbrev Schemas := Option SessionId → String

namespace Schemas

def after (schemas : Schemas) (e : Event) : Schemas :=
  match e.switch? uses with
  | none => schemas
  | some (s, schema) => fun t => if t = some s then schema else schemas t

def through (schemas : Schemas) (es : List Event) : Schemas := es.foldl (after uses) schemas

/-- A statement about the tracking table with the table that it reaches. -/
def reached? (schemas : Schemas) : Event → Option (Call × String × String)
  | .drop _ => none
  | .call c => (c.command?.bind Command.tracking?).map fun table =>
    (c, table.resolve (schemas c.session?))

/-- All statements about the tracking table, in order, with the tables that they reach. -/
def reached (schemas : Schemas) : List Event → List (Call × String × String)
  | [] => []
  | e :: es => (schemas.reached? e).toList ++ reached (schemas.after uses e) es

variable {uses} {schemas : Schemas} {home : String} {s : SessionId}

theorem reached_append (es fs : List Event) :
    schemas.reached uses (es ++ fs) =
      schemas.reached uses es ++ (schemas.through uses es).reached uses fs := by
  induction es generalizing schemas with
  | nil => rfl
  | cons e es ih =>
    simp only [List.cons_append, reached, ih, List.append_assoc]
    rfl

theorem through_append (es fs : List Event) :
    schemas.through uses (es ++ fs) = (schemas.through uses es).through uses fs :=
  List.foldl_append

theorem after_of_no_session {c : Call} (h : c.session? = none) :
    schemas.after uses (.call c) = schemas := by
  have hswitch : (Event.call c).switch? uses = none := by
    simp [Event.switch?, h]
  unfold after
  rw [hswitch]

theorem reached_of_no_session {es : List Event} (h : ∀ c, .call c ∈ es → c.session? = none)
    {c : Call} {place : String × String} (hp : (c, place) ∈ schemas.reached uses es) :
    .call c ∈ es ∧ ∃ table, c.command?.bind Command.tracking? = some table ∧
      place = table.resolve (schemas none) := by
  induction es with
  | nil => cases hp
  | cons e es ih =>
    have hafter : schemas.after uses e = schemas := by
      cases e with
      | drop t => rfl
      | call c => exact after_of_no_session (h c List.mem_cons_self)
    rw [reached, hafter] at hp
    rcases List.mem_append.1 hp with hp | hp
    · cases e with
      | drop t => simp [reached?] at hp
      | call c' =>
        rw [Option.mem_toList, reached?, Option.map_eq_some_iff] at hp
        obtain ⟨table, htable, heq⟩ := hp
        cases heq
        exact ⟨List.mem_cons_self, table, htable, by rw [h c List.mem_cons_self]⟩
    · obtain ⟨hmem, htable⟩ := ih (fun c hc => h c (List.mem_cons_of_mem _ hc)) hp
      exact ⟨List.mem_cons_of_mem _ hmem, htable⟩

end Schemas

end

/-! ## The tables of a driver -/

/-- The schema that a transaction starts in: what the options say, or the one there is. -/
def Driver.schemaIn (d : Driver) (home : String) : String :=
  (d.schemaOverride.map Identifier.text).getD home

open Program

section

variable {uses : String → Option String} {home : String} {d : Driver} {P : Terms}
  {sc sc' : Scene} {es : List Event}

theorem Driver.ensureTracking_reached {st : Standing (Except MigrateError Unit)}
    (h : Course P d.ensureTracking sc es st sc') :
    ∀ p ∈ Schemas.reached uses (fun _ => home) es,
      p = (.execute none (.createTracking d.tracking), d.tracking.resolve home) := by
  let φ (c : Call) : Prop :=
    c = .execute none (.createTracking d.tracking) ∨
      ∃ schema, c = .execute none (.createSchema schema)
  have honly : d.ensureTracking.Only φ :=
    ensureTracking_calls (fun schema _ => .inr ⟨schema, rfl⟩) (.inl rfl)
  have hsession : ∀ c, .call c ∈ es → c.session? = none := by
    intro c hc
    rcases h.calls_of_only honly c hc with rfl | ⟨schema, rfl⟩
    · rfl
    · rfl
  rintro ⟨c, place⟩ hp
  obtain ⟨hc, table, htable, rfl⟩ := Schemas.reached_of_no_session hsession hp
  rcases h.calls_of_only honly c hc with rfl | ⟨schema, rfl⟩
  · cases htable
    rfl
  · cases htable

theorem Driver.loadStatuses_reached {ms : List Migration} {st : Standing Loaded}
    (h : Course P (d.loadStatuses ms) sc es st sc') :
    ∀ p ∈ Schemas.reached uses (fun _ => home) es,
      p = (.query none (.loadStatuses d.tracking) [], d.tracking.resolve home) := by
  have honly : (d.loadStatuses ms).Only (· = .query none (.loadStatuses d.tracking) []) :=
    loadStatuses_calls ms rfl
  have hsession : ∀ c, .call c ∈ es → c.session? = none := by
    intro c hc
    rw [h.calls_of_only honly c hc]
    rfl
  rintro ⟨c, place⟩ hp
  obtain ⟨hc, table, htable, rfl⟩ := Schemas.reached_of_no_session hsession hp
  obtain rfl := h.calls_of_only honly c hc
  cases htable
  rfl

end

/-! ## The author's texts -/

/-- The event sends a text of the author's own in this session. -/
def Event.IsOwn (s : SessionId) (e : Event) : Prop :=
  ∃ c sql, e = .call c ∧ c.session? = some s ∧ c.command?.bind Command.own? = some sql

section

variable {s : SessionId} {xs : List Exchange}

theorem Callback.Made.isOwn {callback : Callback} {r : Except Cause String}
    (h : callback.Made s xs r) : ∀ e ∈ xs.map Exchange.event, e.IsOwn s := by
  intro e he
  obtain ⟨c, hc, rfl⟩ := List.mem_map.1 (h.calls.subset he)
  obtain ⟨step, -, hstep⟩ := List.mem_filterMap.1 hc
  cases ha : step.action with
  | append | appendColumn | fail =>
    rw [ha] at hstep
    cases hstep
  | execute sql | executeWith sql | query sql =>
    rw [ha] at hstep
    cases hstep
    exact ⟨_, sql, rfl, rfl, rfl⟩

theorem MigrationAction.Writes.isOwn {a : MigrationAction} {r : Except Cause String}
    (h : a.Writes s xs r) : ∀ e ∈ xs.map Exchange.event, e.IsOwn s := by
  cases a with
  | script sql =>
    obtain ⟨rfl, -⟩ := h
    simp
  | generated generator => exact Callback.Made.isOwn h
  | computed action => exact h.elim

theorem Migration.Acts.isOwn {m : Migration} {ok : Bool} (h : m.Acts s xs ok) :
    ∀ e ∈ xs.map Exchange.event, e.IsOwn s := by
  cases h with
  | computed _ made => exact made.isOwn
  | unwritten written => exact written.isOwn
  | refused written _ => exact written.isOwn
  | @sent xs sql reply written _ =>
    intro e he
    rw [List.map_append] at he
    rcases List.mem_append.1 he with he | he
    · exact written.isOwn e he
    · cases List.mem_singleton.1 he
      exact ⟨_, sql, rfl, rfl, rfl⟩

end

/-- A text of the author's own switches the session to this schema. -/
def OwnSwitch (uses : String → Option String) (s : SessionId) (es : List Event)
    (schema : String) : Prop :=
  ∃ c sql, .call c ∈ es ∧ c.session? = some s ∧ c.command?.bind Command.own? = some sql ∧
    uses sql = some schema

section

variable {uses : String → Option String} {schemas : Schemas} {s : SessionId} {es : List Event}

theorem OwnSwitch.mono {fs : List Event} {schema : String} (h : OwnSwitch uses s es schema)
    (hsub : es ⊆ fs) : OwnSwitch uses s fs schema := by
  obtain ⟨c, sql, hc, hrest⟩ := h
  exact ⟨c, sql, hsub hc, hrest⟩

theorem Command.tracking?_of_own? (uses : String → Option String) {command : Command}
    {sql : String} (h : command.own? = some sql) :
    command.tracking? = none ∧ command.switch? uses = uses sql := by
  cases command with
  | script text | custom text =>
    cases h
    exact ⟨rfl, rfl⟩
  | _ => cases h

theorem Schemas.after_own {e : Event} (h : e.IsOwn s) (schemas : Schemas) :
    schemas.reached? e = none ∧
      (∀ t ≠ some s, schemas.after uses e t = schemas t) ∧
      (schemas.after uses e (some s) = schemas (some s) ∨
        OwnSwitch uses s [e] (schemas.after uses e (some s))) := by
  obtain ⟨c, sql, rfl, hsession, hown⟩ := h
  obtain ⟨command, hcommand, hsql⟩ := Option.bind_eq_some_iff.1 hown
  obtain ⟨htracking, hswitch⟩ := Command.tracking?_of_own? uses hsql
  have hevent : (Event.call c).switch? uses = (uses sql).map fun schema => (s, schema) := by
    simp only [Event.switch?, hsession, hcommand, Option.bind_eq_bind, Option.bind_some, hswitch]
    cases uses sql <;> rfl
  refine ⟨by simp [reached?, hcommand, htracking], ?_⟩
  unfold after
  rw [hevent]
  cases huses : uses sql with
  | none => exact ⟨fun _ _ => rfl, Or.inl rfl⟩
  | some schema =>
    refine ⟨fun t ht => if_neg ht, Or.inr ⟨c, sql, List.mem_cons_self, hsession, hown, ?_⟩⟩
    exact huses.trans (congrArg some (if_pos rfl).symm)

theorem Schemas.through_own (h : ∀ e ∈ es, e.IsOwn s) (schemas : Schemas) :
    schemas.reached uses es = [] ∧
      (∀ t ≠ some s, schemas.through uses es t = schemas t) ∧
      (schemas.through uses es (some s) = schemas (some s) ∨
        OwnSwitch uses s es (schemas.through uses es (some s))) := by
  induction es generalizing schemas with
  | nil => exact ⟨rfl, fun _ _ => rfl, Or.inl rfl⟩
  | cons e es ih =>
    obtain ⟨hnone, hothers, hsame⟩ := after_own (h e List.mem_cons_self) schemas
    obtain ⟨hnil, hothers', hsame'⟩ :=
      ih (fun e he => h e (List.mem_cons_of_mem _ he)) (schemas.after uses e)
    change _ ∧ _ ∧ ((schemas.after uses e).through uses es (some s) = _ ∨
      OwnSwitch uses s _ ((schemas.after uses e).through uses es (some s)))
    refine ⟨?_, fun t ht => (hothers' t ht).trans (hothers t ht), ?_⟩
    · rw [reached, hnone, hnil]
      rfl
    · rcases hsame' with hsame' | hswitch
      · rw [hsame']
        exact hsame.imp_right fun hswitch => hswitch.mono (by simp)
      · exact Or.inr (hswitch.mono (List.subset_cons_self _ _))

/-! ## The transactions of a run -/

namespace Driver

variable {d : Driver} {home : String} {w : RowWrite}
  {acts : SessionId → List Exchange → Bool → Prop} {xs : List Exchange} {ending : Ending}

theorem Opens.through (h : d.Opens s xs) (uses : String → Option String) (schemas : Schemas) :
    schemas.reached uses (xs.map Exchange.event) = [] ∧
      (∀ t ≠ some s, schemas.through uses (xs.map Exchange.event) t = schemas t) ∧
      schemas.through uses (xs.map Exchange.event) (some s) = d.schemaIn (schemas (some s)) := by
  cases h with
  | plain h =>
    refine ⟨rfl, fun _ _ => rfl, ?_⟩
    rw [schemaIn, h]
    rfl
  | @switched schema r h =>
    refine ⟨rfl, fun t ht => if_neg ht, ?_⟩
    rw [schemaIn, h]
    exact if_pos rfl

theorem Opens.acted {ys : List Exchange} (h : d.Opens s xs)
    (hys : ∀ e ∈ ys.map Exchange.event, e.IsOwn s) (uses : String → Option String)
    (schemas : Schemas) :
    schemas.reached uses ((xs ++ ys).map Exchange.event) = [] ∧
      (∀ t ≠ s, schemas.through uses ((xs ++ ys).map Exchange.event) (some t) = schemas (some t)) ∧
      (schemas.through uses ((xs ++ ys).map Exchange.event) (some s) =
          d.schemaIn (schemas (some s)) ∨
        OwnSwitch uses s (ys.map Exchange.event)
          (schemas.through uses ((xs ++ ys).map Exchange.event) (some s))) := by
  obtain ⟨hopens, hothers, hstart⟩ := h.through uses schemas
  obtain ⟨hacted, hothers', hsame⟩ :=
    Schemas.through_own hys (schemas.through uses (xs.map Exchange.event))
  rw [List.map_append, Schemas.reached_append, Schemas.through_append, hopens, hacted]
  refine ⟨rfl, fun t ht => ?_, ?_⟩
  · have hne : some t ≠ some s := fun heq => ht (Option.some.inj heq)
    exact (hothers' _ hne).trans (hothers _ hne)
  · rwa [hstart] at hsame

theorem Opens.ne_of_not_mem {ys zs : List Exchange} {t : SessionId} (h : d.Opens s xs)
    (ht : t ∉ SchemaMigration.opened (xs ++ ys ++ zs)) : t ≠ s := by
  rintro rfl
  exact ht (by simp [opened_append, h.opened])

theorem Seals.reached (h : d.Seals s w xs ending) (uses : String → Option String)
    (schemas : Schemas) :
    schemas.reached uses (xs.map Exchange.event) =
        [(d.saving s w, d.tracking.resolve (schemas (some s)))] ∧
      schemas.through uses (xs.map Exchange.event) = schemas := by
  cases h <;> exact ⟨rfl, rfl⟩

/-- Where a transaction writes its row: the schema it starts in leads there, or the author does. -/
def Lands (d : Driver) (uses : String → Option String) (home : String) (w : RowWrite)
    (acts : SessionId → List Exchange → Bool → Prop) (xs : List Exchange)
    (p : Call × String × String) : Prop :=
  ∃ s schema, p = (d.saving s w, d.tracking.resolve schema) ∧
    (schema = d.schemaIn home ∨
      ∃ ys, acts s ys true ∧ ys ⊆ xs ∧ OwnSwitch uses s (ys.map Exchange.event) schema)

theorem Transacts.reached (h : d.Transacts w acts xs ending)
    (hacts : ∀ s ys ok, acts s ys ok → ∀ e ∈ ys.map Exchange.event, e.IsOwn s)
    (hhome : ∀ s ∈ opened xs, schemas (some s) = home) :
    (∀ p ∈ schemas.reached uses (xs.map Exchange.event), d.Lands uses home w acts xs p) ∧
      ∀ s ∉ opened xs,
        schemas.through uses (xs.map Exchange.event) (some s) = schemas (some s) := by
  cases h with
  | notBegun => exact ⟨fun p hp => absurd hp List.not_mem_nil, fun _ _ => rfl⟩
  | @notSwitched s schema e r h =>
    refine ⟨fun p hp => absurd hp List.not_mem_nil, fun t ht => if_neg fun heq => ht ?_⟩
    cases heq
    exact List.mem_singleton_self s
  | @notActed s xs ys r opens acted =>
    obtain ⟨hreached, hothers, -⟩ := opens.acted (hacts s ys false acted) uses schemas
    rw [List.map_append, Schemas.reached_append, Schemas.through_append, hreached]
    exact ⟨fun p hp => absurd hp List.not_mem_nil, fun t ht => hothers t (opens.ne_of_not_mem ht)⟩
  | @acted s xs ys zs ending opens acted seals =>
    obtain ⟨hreached, hothers, hsame⟩ := opens.acted (hacts s ys true acted) uses schemas
    obtain ⟨hsealed, hkept⟩ := seals.reached uses (schemas.through uses ((xs ++ ys).map _))
    rw [List.map_append, Schemas.reached_append, Schemas.through_append, hreached, hsealed, hkept]
    refine ⟨fun p hp => ?_, fun t ht => hothers t (opens.ne_of_not_mem ht)⟩
    obtain rfl := List.mem_singleton.1 hp
    refine ⟨s, _, rfl, ?_⟩
    rw [hhome s (by simp [opened_append, opens.opened])] at hsame
    exact hsame.imp_right fun hswitch => ⟨ys, acted, by simp, hswitch⟩

variable {m : Migration} {P : Terms} {sc sc' : Scene} {o : Outcome}

theorem run_reached (h : Course P (d.run m) sc es (.ended o) sc') :
    ∀ p ∈ Schemas.reached uses (fun _ => home) es, ∃ s done error schema,
      p = (d.saving s ⟨m.name, done, error⟩, d.tracking.resolve schema) ∧
        (schema = d.schemaIn home ∨ done = true ∧ OwnSwitch uses s es schema) := by
  obtain ⟨xs, hfollows, hgives, rfl⟩ := h.exchanges
  obtain ⟨first, second, ending, rfl, hfirst, hsecond, -⟩ := run_follows hfollows
  have hapart := hgives.numbered.2.2
  rw [opened_append] at hapart
  obtain ⟨hlands, hothers⟩ := @Transacts.reached uses (fun _ => home) d home _ _ _ _ hfirst
    (fun _ _ _ hacts => hacts.isOwn) fun _ _ => rfl
  intro p hp
  rw [List.map_append, Schemas.reached_append] at hp
  rcases List.mem_append.1 hp with hp | hp
  · obtain ⟨s, schema, rfl, hschema⟩ := hlands p hp
    refine ⟨s, true, "", schema, rfl, ?_⟩
    rcases hschema with hschema | ⟨ys, -, hsub, hswitch⟩
    · exact Or.inl hschema
    · refine Or.inr ⟨rfl, hswitch.mono (List.map_subset _ fun x hx => ?_)⟩
      exact List.mem_append_left second (hsub hx)
  · unfold FallsBack at hsecond
    split at hsecond
    · obtain ⟨text, ending', hsecond⟩ := hsecond
      have hhome : ∀ s ∈ opened second, Schemas.through uses (fun _ => home)
          (first.map Exchange.event) (some s) = home := by
        intro s hs
        refine hothers s fun hmem => ?_
        exact Nat.lt_irrefl _ ((List.pairwise_append.1 hapart).2.2 s hmem s hs)
      obtain ⟨hlands, -⟩ := hsecond.reached (by rintro s ys ok ⟨rfl, -⟩; simp) hhome
      obtain ⟨s, schema, rfl, hschema⟩ := hlands p hp
      refine ⟨s, false, text, schema, rfl, ?_⟩
      rcases hschema with hschema | ⟨ys, ⟨rfl, -⟩, -, hswitch⟩
      · exact Or.inl hschema
      · obtain ⟨c, sql, hc, -⟩ := hswitch
        cases hc
    · subst hsecond
      cases hp

/-! ## Where a row is found again -/

/-- Every run of the driver writes to the table that the driver makes and reads. -/
def KeepsOneTable (d : Driver) (uses : String → Option String) (home : String) : Prop :=
  ∀ m sc es o sc', Course anyTerms (d.run m) sc es (.ended o) sc' →
    ∀ p ∈ Schemas.reached uses (fun _ => home) es,
      (∀ sc fs st sc', Course anyTerms d.ensureTracking sc fs st sc' →
        ∀ q ∈ Schemas.reached uses (fun _ => home) fs, q.2 = p.2) ∧
      ∀ ms sc fs st sc', Course anyTerms (d.loadStatuses ms) sc fs st sc' →
        ∀ q ∈ Schemas.reached uses (fun _ => home) fs, q.2 = p.2

theorem KeepsOneTable.events (h : d.KeepsOneTable uses home) {db : Database}
    (hended : ((d.run m).advance db).standing.isEnded = true) :
    ∀ p ∈ Schemas.reached uses (fun _ => home) ((d.run m).advance db).events,
      ∀ q ∈ Schemas.reached uses (fun _ => home) (d.ensureTracking.advance db).events,
        q.2 = p.2 := by
  have hmakes {α : Type} (p : Program α) : p.Makes anyTerms (Scene.start db).database :=
    Makes.of_replies (Q := fun _ => True) (fun _ _ _ => trivial) p fun _ _ => trivial
  obtain ⟨o, ho⟩ := Standing.exists_of_isEnded hended
  have hcourse := Course.advance (hmakes (d.run m))
  rw [Scene.start_database, ho] at hcourse
  intro p hp q hq
  exact (h m _ _ o _ hcourse p hp).1 _ _ _ _ (Course.advance (hmakes d.ensureTracking)) q hq

/--
With an unqualified table rows go to the schema that the options name, or to the one that a script
of the author's own switches to, and not to the table that is made in the schema of the database.
-/
theorem keepsOneTable_apart :
    let named : Options := { trackingTable := "status", schemaOverride := some "app" }
    let plain : Options := { trackingTable := "status" }
    let uses (sql : String) : Option String := if sql = "USE other" then some "other" else none
    (∃ d, check named.tracking named = .ok d ∧ ¬ d.KeepsOneTable (fun _ => none) "main") ∧
      ∃ d, check plain.tracking plain = .ok d ∧ ¬ d.KeepsOneTable uses "main" := by
  let status : TrackingTable := ⟨none, ⟨"status", by decide⟩⟩
  let m (sql : String) : Migration := { name := ⟨"lib", "one"⟩, action := .script sql }
  refine ⟨⟨⟨_, status, some ⟨"app", by decide⟩⟩, rfl, fun h => ?_⟩, ⟨_, status, none⟩, rfl,
    fun h => ?_⟩
  · exact absurd (@h.events _ _ _ (m "SELECT 1") {} (by decide +kernel)) (by decide +kernel)
  · exact absurd (@h.events _ _ _ (m "USE other") {} (by decide +kernel)) (by decide +kernel)

/--
A run writes its row to the table that the driver makes and reads if the table is named with its
schema, or else if the transaction is in the schema of the database when it writes; and only then.
It is in the schema that the options name, and without one in that of the database, unless a text
of the author's own has switched in the same transaction.
-/
theorem run_reaches (h : Course P (d.run m) sc es (.ended o) sc') :
    ∀ p ∈ Schemas.reached uses (fun _ => home) es, ∃ s done error schema,
      p = (d.saving s ⟨m.name, done, error⟩, d.tracking.resolve schema) ∧
      (schema = d.schemaIn home ∨ done = true ∧ OwnSwitch uses s es schema) ∧
      (∀ sc fs st sc', Course P d.ensureTracking sc fs st sc' →
        ∀ q ∈ Schemas.reached uses (fun _ => home) fs,
          q.2 = p.2 ↔ d.tracking.schema ≠ none ∨ schema = home) ∧
      ∀ ms sc fs st sc', Course P (d.loadStatuses ms) sc fs st sc' →
        ∀ q ∈ Schemas.reached uses (fun _ => home) fs,
          q.2 = p.2 ↔ d.tracking.schema ≠ none ∨ schema = home := by
  intro p hp
  obtain ⟨s, done, error, schema, rfl, hschema⟩ := run_reached h p hp
  have hsame : d.tracking.resolve home = d.tracking.resolve schema ↔
      d.tracking.schema ≠ none ∨ schema = home := by
    rw [QualifiedName.resolve_eq_iff, eq_comm]
  refine ⟨s, done, error, schema, rfl, hschema, ?_, ?_⟩
  · intro sc fs st sc' hensure q hq
    rw [ensureTracking_reached hensure q hq]
    exact hsame
  · intro ms sc fs st sc' hload q hq
    rw [loadStatuses_reached hload q hq]
    exact hsame

/-- A run whose first commit fails, under an override that is the schema of the database anyway. -/
theorem run_reaches_twice :
    let m : Migration := { name := ⟨"lib", "one"⟩, action := .script "SELECT 1" }
    let d : Driver := ⟨{}, ⟨none, ⟨"status", by decide⟩⟩, some ⟨"app", by decide⟩⟩
    let sc : Scene := .start
      { rules := [{ kind := some .commit, times := some 1, reply := .fail (.execution "no") }] }
    let fs := (d.ensureTracking.advance sc.database).events
    ∃ es o sc', Course anyTerms (d.run m) sc es (.ended o) sc' ∧
      (Schemas.reached (fun _ => none) (fun _ => "app") es).map Prod.snd =
        [("app", "status"), ("app", "status")] ∧
      (Schemas.reached (fun _ => none) (fun _ => "app") fs).map Prod.snd = [("app", "status")] ∧
      ∀ p ∈ Schemas.reached (fun _ => none) (fun _ => "app") es,
        ∀ q ∈ Schemas.reached (fun _ => none) (fun _ => "app") fs, q.2 = p.2 := by
  intro m d sc fs
  have hmakes {α : Type} (p : Program α) : p.Makes anyTerms sc.database :=
    Makes.of_replies (Q := fun _ => True) (fun _ _ _ => trivial) p fun _ _ => trivial
  obtain ⟨o, ho⟩ : ∃ o, ((d.run m).advance sc.database).standing = .ended o :=
    Standing.exists_of_isEnded (by decide +kernel)
  have hcourse := Course.advance (hmakes (d.run m))
  rw [ho] at hcourse
  refine ⟨_, o, _, hcourse, by decide +kernel, by decide +kernel, ?_⟩
  intro p hp q hq
  obtain ⟨s, done, error, schema, -, hschema, hensure, -⟩ := run_reaches hcourse p hp
  have hmade := Course.advance (hmakes d.ensureTracking)
  refine (hensure sc fs _ _ hmade q hq).2 ?_
  rcases hschema with hschema | ⟨-, c, sql, -, -, -, hnone⟩
  · exact Or.inr hschema
  · cases hnone

end Driver

end

end SchemaMigration
