import SchemaMigration.Proofs.Serving

/-!
# Courses of programs

A program that waits for a lock goes on later, on a database that others have changed in the
meantime. A course is one way in which that can go: what the program has shown since it was set
going, and where it stands. Others leave the session that waits alone; all else is theirs.
-/

namespace SchemaMigration

/-- The database, with the tracking rows of when the program was last set going. -/
structure Scene where
  database : Database
  rows : TrackingRows

namespace Scene

def start (db : Database) : Scene := ⟨db, db.rows⟩

def after (sc : Scene) (db : Database) : Scene := { sc with database := db }

@[simp] theorem start_database (db : Database) : (start db).database = db := rfl

@[simp] theorem after_database (sc : Scene) (db : Database) : (sc.after db).database = db := rfl

end Scene

/-- A program that is held up is the first part of a longer one. -/
def Suspended.andThen {α β : Type} (held : Suspended α) (f : α → Program β) : Suspended β :=
  match held with
  | .blocked s => .blocked s
  | .waiting s lock resume => .waiting s lock (resume.bind f)

def Standing.isEnded {α : Type} : Standing α → Bool
  | .ended _ => true
  | .suspended _ => false

theorem Standing.exists_of_isEnded {α : Type} {st : Standing α} (h : st.isEnded = true) :
    ∃ a, st = .ended a := by
  cases st with
  | ended a => exact ⟨a, rfl⟩
  | suspended held => cases h

/-- A call with the reply that it got, or a session that was let go of. -/
inductive Exchange where
  | call (c : Call) (reply : Except DbError c.Answer)
  | drop (s : SessionId)

def Exchange.event : Exchange → Event
  | call c _ => .call c
  | drop s => .drop s

/-- What shows of exchanges, and of the call after them that is held up. -/
def shown (xs : List Exchange) (held : Option Call) : List Event :=
  xs.map Exchange.event ++ held.toList.map .call

theorem shown_none (xs : List Exchange) : shown xs none = xs.map Exchange.event :=
  List.append_nil _

theorem shown_append (xs ys : List Exchange) (held : Option Call) :
    shown (xs ++ ys) held = shown xs none ++ shown ys held := by
  simp [shown]

/-- What is asked of the way a call is decided. -/
abbrev Terms := Database → Call → Prop

def anyTerms : Terms := fun _ _ => True

namespace Program

variable {α β : Type} {P : Terms}

/-- The ways in which a program can go whose calls are decided on the terms `P`. -/
inductive Course (P : Terms) {α : Type} :
    Program α → Scene → List Event → Standing α → Scene → Prop
  | done (a : α) (sc : Scene) : Course P (.done a) sc [] (.ended a) sc
  | log {r next sc es st sc'} (rest : Course P next sc es st sc') :
      Course P (.log r next) sc es st sc'
  | close {s next sc es st sc'} (rest : Course P next (sc.after (sc.database.drop s)) es st sc') :
      Course P (.close s next) sc (.drop s :: es) st sc'
  | answered {c next sc reply db es st sc'} (hp : P sc.database c)
      (hs : sc.database.serve c = .answered reply db)
      (rest : Course P (next reply) (sc.after db) es st sc') :
      Course P (.call c next) sc (.call c :: es) st sc'
  | blocked {c next sc db} (hp : P sc.database c) (hs : sc.database.serve c = .blocked db) :
      Course P (.call c next) sc [.call c] (.suspended (.blocked c.session?)) (sc.after db)
  | waiting {c next sc s lock granted db} (hp : P sc.database c)
      (hs : sc.database.serve c = .waiting s lock granted db) :
      Course P (.call c next) sc [.call c] (.suspended (.waiting s lock (next (.ok granted))))
        (sc.after db)
  /-- The lock is granted after all, on a database that has changed. -/
  | granted {c next sc s lock granted db e e' es st sc'} (hp : P sc.database c)
      (hs : sc.database.serve c = .waiting s lock granted db) (he : e.Sound) (hk : db.Keeps s e)
      (hg : e.grant? s lock = some e')
      (rest : Course P (next (.ok granted)) (.start e') es st sc') :
      Course P (.call c next) sc (.call c :: es) st sc'

/-- Every call that the program makes before it ends or is held up is decided on the terms. -/
def Makes (P : Terms) (db : Database) : Program α → Prop
  | .done _ => True
  | .log _ next => next.Makes P db
  | .close s next => next.Makes P (db.drop s)
  | .call c next => P db c ∧
    match db.serve c with
    | .answered reply db => (next reply).Makes P db
    | .blocked _ | .waiting _ _ _ _ => True

theorem Course.advance {p : Program α} {sc : Scene} (h : p.Makes P sc.database) :
    p.Course P sc (p.advance sc.database).events (p.advance sc.database).standing
      (sc.after (p.advance sc.database).database) := by
  induction p generalizing sc with
  | done a => exact .done a sc
  | log r next ih => exact .log (ih h)
  | close s next ih =>
    exact .close (@ih (sc.after (sc.database.drop s)) h)
  | call c next ih =>
    rw [Makes] at h
    obtain ⟨hp, hrest⟩ := h
    unfold Program.advance
    cases hs : sc.database.serve c with
    | answered reply db =>
      rw [hs] at hrest
      exact .answered hp hs (@ih reply (sc.after db) hrest)
    | blocked db => exact .blocked hp hs
    | waiting s lock granted db => exact .waiting hp hs

theorem Makes.of_replies {Q : RuleReply → Prop}
    (hP : ∀ db c, (∀ reply, db.ruled c = some reply → Q reply) → P db c) (p : Program α)
    {db : Database} (h : ∀ rule ∈ db.rules, Q rule.reply) : p.Makes P db := by
  induction p generalizing db with
  | done a => trivial
  | log r next ih => exact ih h
  | close s next ih => exact @ih (db.drop s) h
  | call c next ih =>
    have hconsult := Database.consultRules_replies h c
    rw [Makes]
    refine ⟨hP db c hconsult.1, ?_⟩
    split
    · rename_i reply db' hs
      apply ih
      rw [Database.rules_of_serve hs]
      exact hconsult.2
    · trivial
    · trivial

/-! ## Replies -/

section

variable {p : Program α} {sc sc' : Scene} {es : List Event} {xs : List Exchange}
  {held : Option Call} {st : Standing α}

/--
A course with the replies in it: the exchanges that were made, and the call that the program is held
up at if it has not ended.
-/
inductive Dialogue (P : Terms) {α : Type} :
    Program α → Scene → List Exchange → Option Call → Standing α → Scene → Prop
  | done (a : α) (sc : Scene) : Dialogue P (.done a) sc [] none (.ended a) sc
  | log {r next sc xs held st sc'} (rest : Dialogue P next sc xs held st sc') :
      Dialogue P (.log r next) sc xs held st sc'
  | close {s next sc xs held st sc'}
      (rest : Dialogue P next (sc.after (sc.database.drop s)) xs held st sc') :
      Dialogue P (.close s next) sc (.drop s :: xs) held st sc'
  | answered {c next sc reply db xs held st sc'} (hp : P sc.database c)
      (hs : sc.database.serve c = .answered reply db)
      (rest : Dialogue P (next reply) (sc.after db) xs held st sc') :
      Dialogue P (.call c next) sc (.call c reply :: xs) held st sc'
  | blocked {c next sc db} (hp : P sc.database c) (hs : sc.database.serve c = .blocked db) :
      Dialogue P (.call c next) sc [] (some c) (.suspended (.blocked c.session?)) (sc.after db)
  | waiting {c next sc s lock granted db} (hp : P sc.database c)
      (hs : sc.database.serve c = .waiting s lock granted db) :
      Dialogue P (.call c next) sc [] (some c)
        (.suspended (.waiting s lock (next (.ok granted)))) (sc.after db)
  | granted {c next sc s lock granted db e e' xs held st sc'} (hp : P sc.database c)
      (hs : sc.database.serve c = .waiting s lock granted db) (he : e.Sound) (hk : db.Keeps s e)
      (hg : e.grant? s lock = some e')
      (rest : Dialogue P (next (.ok granted)) (.start e') xs held st sc') :
      Dialogue P (.call c next) sc (.call c (.ok granted) :: xs) held st sc'

theorem Dialogue.course (h : Dialogue P p sc xs held st sc') :
    Course P p sc (shown xs held) st sc' := by
  induction h with
  | done a sc => exact .done a sc
  | log _ ih => exact .log ih
  | close _ ih => exact .close ih
  | answered hp hs _ ih => exact .answered hp hs ih
  | blocked hp hs => exact .blocked hp hs
  | waiting hp hs => exact .waiting hp hs
  | granted hp hs he hk hg _ ih => exact .granted hp hs he hk hg ih

theorem Course.dialogue (h : Course P p sc es st sc') :
    ∃ xs held, Dialogue P p sc xs held st sc' ∧ es = shown xs held := by
  induction h with
  | done a sc => exact ⟨[], none, .done a sc, rfl⟩
  | log _ ih =>
    obtain ⟨xs, held, hrest, rfl⟩ := ih
    exact ⟨xs, held, .log hrest, rfl⟩
  | close _ ih =>
    obtain ⟨xs, held, hrest, rfl⟩ := ih
    exact ⟨_, held, .close hrest, rfl⟩
  | answered hp hs _ ih =>
    obtain ⟨xs, held, hrest, rfl⟩ := ih
    exact ⟨_, held, .answered hp hs hrest, rfl⟩
  | @blocked c _ _ _ hp hs => exact ⟨[], some c, .blocked hp hs, rfl⟩
  | @waiting c _ _ _ _ _ _ hp hs => exact ⟨[], some c, .waiting hp hs, rfl⟩
  | granted hp hs he hk hg _ ih =>
    obtain ⟨xs, held, hrest, rfl⟩ := ih
    exact ⟨_, held, .granted hp hs he hk hg hrest, rfl⟩

end

/-! ## Going on -/

theorem Course.resume {p resume : Program α} {s : SessionId} {lock : String} {sc sc₁ sc' : Scene}
    {es es' : List Event} {st : Standing α} {e e' : Database}
    (h : Course P p sc es (.suspended (.waiting s lock resume)) sc₁) (he : e.Sound)
    (hk : sc₁.database.Keeps s e) (hg : e.grant? s lock = some e')
    (rest : Course P resume (.start e') es' st sc') : Course P p sc (es ++ es') st sc' := by
  -- The first course stays as it is, but for its last call: that wait is now granted.
  generalize hst : Standing.suspended (Suspended.waiting s lock resume) = st₁ at h
  induction h with
  | done a sc => cases hst
  | log _ ih => exact .log (ih hk hst)
  | close _ ih => exact .close (ih hk hst)
  | answered hp hs _ ih => exact .answered hp hs (ih hk hst)
  | blocked hp hs => cases hst
  | waiting hp hs =>
    cases hst
    exact .granted hp hs he hk hg rest
  | granted hp hs he' hk' hg' _ ih => exact .granted hp hs he' hk' hg' (ih hk hst)

/-! ## Parts of a course -/

theorem Dialogue.bind_inv {p : Program α} {f : α → Program β} {sc sc' : Scene}
    {xs : List Exchange} {held : Option Call} {st : Standing β}
    (h : Dialogue P (p.bind f) sc xs held st sc') :
    (∃ a ys sc₁ zs, Dialogue P p sc ys none (.ended a) sc₁ ∧ Dialogue P (f a) sc₁ zs held st sc' ∧
        xs = ys ++ zs) ∨
      ∃ r, Dialogue P p sc xs held (.suspended r) sc' ∧ st = .suspended (r.andThen f) := by
  -- On the program and not on the dialogue, which does not tell where the first part ends.
  induction p generalizing sc xs with
  | done a => exact Or.inl ⟨a, [], sc, xs, .done a sc, h, rfl⟩
  | log r next ih =>
    cases h with
    | log rest =>
      rcases ih rest with ⟨a, ys, sc₁, zs, h₁, h₂, rfl⟩ | ⟨r, h₁, rfl⟩
      · exact Or.inl ⟨a, ys, sc₁, zs, .log h₁, h₂, rfl⟩
      · exact Or.inr ⟨r, .log h₁, rfl⟩
  | close s next ih =>
    cases h with
    | close rest =>
      rcases ih rest with ⟨a, ys, sc₁, zs, h₁, h₂, rfl⟩ | ⟨r, h₁, rfl⟩
      · exact Or.inl ⟨a, _, sc₁, zs, .close h₁, h₂, rfl⟩
      · exact Or.inr ⟨r, .close h₁, rfl⟩
  | call c next ih =>
    cases h with
    | answered hp hs rest =>
      rcases ih _ rest with ⟨a, ys, sc₁, zs, h₁, h₂, rfl⟩ | ⟨r, h₁, rfl⟩
      · exact Or.inl ⟨a, _, sc₁, zs, .answered hp hs h₁, h₂, rfl⟩
      · exact Or.inr ⟨r, .answered hp hs h₁, rfl⟩
    | blocked hp hs => exact Or.inr ⟨_, .blocked hp hs, rfl⟩
    | waiting hp hs => exact Or.inr ⟨_, .waiting hp hs, rfl⟩
    | granted hp hs he hk hg rest =>
      rcases ih _ rest with ⟨a, ys, sc₁, zs, h₁, h₂, rfl⟩ | ⟨r, h₁, rfl⟩
      · exact Or.inl ⟨a, _, sc₁, zs, .granted hp hs he hk hg h₁, h₂, rfl⟩
      · exact Or.inr ⟨r, .granted hp hs he hk hg h₁, rfl⟩

theorem Course.bind_inv {p : Program α} {f : α → Program β} {sc sc' : Scene} {es : List Event}
    {st : Standing β} (h : Course P (p.bind f) sc es st sc') :
    (∃ a es₁ sc₁ es₂, Course P p sc es₁ (.ended a) sc₁ ∧ Course P (f a) sc₁ es₂ st sc' ∧
        es = es₁ ++ es₂) ∨
      ∃ held, Course P p sc es (.suspended held) sc' ∧ st = .suspended (held.andThen f) := by
  obtain ⟨xs, held, hdialogue, rfl⟩ := h.dialogue
  rcases hdialogue.bind_inv with ⟨a, ys, sc₁, zs, hfirst, hrest, rfl⟩ | ⟨r, hfirst, hst⟩
  · exact Or.inl ⟨a, _, sc₁, _, hfirst.course, hrest.course, shown_append ys zs held⟩
  · exact Or.inr ⟨r, hfirst.course, hst⟩

theorem Course.bind_ended {p : Program α} {f : α → Program β} {sc sc' : Scene} {es : List Event}
    {b : β} (h : Course P (p >>= f) sc es (.ended b) sc') :
    ∃ a es₁ sc₁ es₂, Course P p sc es₁ (.ended a) sc₁ ∧ Course P (f a) sc₁ es₂ (.ended b) sc' ∧
      es = es₁ ++ es₂ := by
  rcases Course.bind_inv h with hends | ⟨held, -, hst⟩
  · exact hends
  · cases hst

theorem Course.of_log {r : LogRecord} {f : Unit → Program β} {sc sc' : Scene} {es : List Event}
    {st : Standing β} (h : Course P (Program.log r (.done ()) >>= f) sc es st sc') :
    Course P (f ()) sc es st sc' := by
  cases h with
  | log rest => exact rest

theorem Course.pure_ended {a b : α} {sc sc' : Scene} {es : List Event}
    (h : Course P (pure a) sc es (.ended b) sc') : b = a ∧ es = [] ∧ sc' = sc := by
  cases h
  exact ⟨rfl, rfl, rfl⟩

theorem Course.perform_events {c : Call} {st : Standing (Except DbError c.Answer)}
    {sc sc' : Scene} {es : List Event} (h : Course P (perform c) sc es st sc') :
    es = [.call c] := by
  cases h with
  | answered _ _ rest =>
    cases rest
    rfl
  | blocked _ _ => rfl
  | waiting _ _ => rfl
  | granted _ _ _ _ _ rest =>
    cases rest
    rfl

theorem Course.perform_answered {c : Call} {reply : Except DbError c.Answer} {db : Database}
    {st : Standing (Except DbError c.Answer)} {sc sc' : Scene} {es : List Event}
    (h : Course P (perform c) sc es st sc') (hs : sc.database.serve c = .answered reply db) :
    st = .ended reply ∧ sc' = sc.after db := by
  cases h with
  | answered _ hs' rest =>
    cases hs.symm.trans hs'
    cases rest
    exact ⟨rfl, rfl⟩
  | blocked _ hs' => cases hs.symm.trans hs'
  | waiting _ hs' => cases hs.symm.trans hs'
  | granted _ hs' => cases hs.symm.trans hs'

theorem Course.perform_ended {c : Call} {r : Except DbError c.Answer} {sc sc' : Scene}
    {es : List Event} (h : Course P (perform c) sc es (.ended r) sc') :
    es = [.call c] ∧ P sc.database c ∧
      ((∃ db, sc.database.serve c = .answered r db ∧ sc' = sc.after db) ∨
        ∃ s lock granted db e e', sc.database.serve c = .waiting s lock granted db ∧ e.Sound ∧
          db.Keeps s e ∧ e.grant? s lock = some e' ∧ r = .ok granted ∧ sc' = .start e') := by
  cases h with
  | answered hp hs rest =>
    cases rest
    exact ⟨rfl, hp, Or.inl ⟨_, hs, rfl⟩⟩
  | granted hp hs he hk hg rest =>
    cases rest
    exact ⟨rfl, hp, Or.inr ⟨_, _, _, _, _, _, hs, he, hk, hg, rfl, rfl⟩⟩

theorem Course.perform_at_once {c : Call} {r : Except DbError c.Answer} {sc sc' : Scene}
    {es : List Event} (hc : c.kind ≠ .query) (h : Course P (perform c) sc es (.ended r) sc') :
    ∃ db, sc.database.serve c = .answered r db ∧ sc' = sc.after db := by
  obtain ⟨-, -, hdone | ⟨s, lock, granted, db, e, e', hv, -⟩⟩ := Course.perform_ended h
  · exact hdone
  · exact absurd (Database.serve_waiting hv).1 hc

/-! ## What all calls of a program have in common -/

/-- Every call that the program can make, whatever it is answered, is one of these. -/
def Only (φ : Call → Prop) : Program α → Prop
  | .done _ => True
  | .log _ next | .close _ next => next.Only φ
  | .call c next => φ c ∧ ∀ reply, (next reply).Only φ

variable {φ : Call → Prop}

theorem Only.bind {p : Program α} {f : α → Program β} (h : p.Only φ) (hf : ∀ a, (f a).Only φ) :
    (p >>= f).Only φ := by
  induction p with
  | done a => exact hf a
  | log r next ih => exact ih h
  | close s next ih => exact ih h
  | call c next ih => exact ⟨h.1, fun reply => ih reply (h.2 reply)⟩

theorem Only.mono {ψ : Call → Prop} {p : Program α} (h : p.Only φ) (hψ : ∀ c, φ c → ψ c) :
    p.Only ψ := by
  induction p with
  | done a => trivial
  | log r next ih => exact ih h
  | close s next ih => exact ih h
  | call c next ih => exact ⟨hψ c h.1, fun reply => ih reply (h.2 reply)⟩

theorem Only.perform {c : Call} (h : φ c) : (perform c).Only φ := ⟨h, fun _ => trivial⟩

theorem Course.calls_of_only {p : Program α} {sc sc' : Scene} {es : List Event} {st : Standing α}
    (hp : p.Only φ) (h : Course P p sc es st sc') : ∀ c, .call c ∈ es → φ c := by
  induction h with
  | done a sc => simp
  | log _ ih => exact ih hp
  | close _ ih =>
    intro c hc
    simp only [List.mem_cons, reduceCtorEq, false_or] at hc
    exact ih hp c hc
  | answered _ _ _ ih =>
    intro c hc
    rcases List.mem_cons.1 hc with hc | hc
    · cases hc
      exact hp.1
    · exact ih (hp.2 _) c hc
  | blocked _ _ =>
    intro c hc
    cases List.mem_singleton.1 hc
    exact hp.1
  | waiting _ _ =>
    intro c hc
    cases List.mem_singleton.1 hc
    exact hp.1
  | granted _ _ _ _ _ _ ih =>
    intro c hc
    rcases List.mem_cons.1 hc with hc | hc
    · cases hc
      exact hp.1
    · exact ih (hp.2 _) c hc

theorem Course.rows_of_only {p : Program α} {sc sc' : Scene} {es : List Event} {st : Standing α}
    (hp : p.Only (·.kind ≠ .commit)) (h : Course P p sc es st sc')
    (hr : sc.database.rows = sc.rows) : sc'.database.rows = sc'.rows := by
  induction h with
  | done a sc => exact hr
  | log _ ih => exact ih hp hr
  | close _ ih => exact ih hp hr
  | answered _ hs _ ih => exact ih (hp.2 _) ((Database.rows_of_serve hp.1 hs).trans hr)
  | blocked _ hs =>
    rw [Scene.after_database, Database.serve_blocked hs]
    exact hr
  | waiting _ hs =>
    rw [Scene.after_database, (Database.serve_waiting hs).2.2.2]
    exact hr
  -- Others may have written rows during the wait, but the comparison starts anew as well.
  | granted _ _ _ _ _ _ ih => exact ih (hp.2 _) rfl

end Program

end SchemaMigration
