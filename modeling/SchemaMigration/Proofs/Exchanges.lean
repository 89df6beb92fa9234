import SchemaMigration.Proofs.Ownership

/-!
# Calls with their replies

What passes between a program and the database is a list of exchanges: every call with the reply
that it got. The program alone tells which exchanges it can come through, and the database alone
which ones it gives. In a course the two agree.
-/

namespace SchemaMigration

namespace Exchange

/-- The session that begins with the exchange. -/
def opened? : Exchange → Option SessionId
  | call (.begin _) (.ok s) => some s
  | _ => none

/-- The session has ended once the exchange is made, also if it failed. -/
def Ends (s : SessionId) : Exchange → Prop
  | call (.commit t) _ | call (.rollback t) _ | drop t => t = s
  | _ => False

end Exchange

/-- The sessions that begin with some exchanges, in order. -/
def opened (xs : List Exchange) : List SessionId := xs.filterMap Exchange.opened?

theorem opened_append (xs ys : List Exchange) : opened (xs ++ ys) = opened xs ++ opened ys :=
  List.filterMap_append

/-! ## The program -/

namespace Program

variable {α β : Type} {φ : Call → Prop}

/-- The program comes through the exchanges to what is left of it. -/
inductive Follows {α : Type} : Program α → List Exchange → Program α → Prop
  | refl (p : Program α) : Follows p [] p
  | log {r next xs q} (rest : Follows next xs q) : Follows (.log r next) xs q
  | close {s next xs q} (rest : Follows next xs q) : Follows (.close s next) (.drop s :: xs) q
  | call {c next xs q} (reply : Except DbError c.Answer) (rest : Follows (next reply) xs q) :
      Follows (.call c next) (.call c reply :: xs) q

theorem Follows.bind_inv {p : Program α} {f : α → Program β} {xs : List Exchange} {q : Program β}
    (h : (p.bind f).Follows xs q) :
    (∃ a xs₁ xs₂, p.Follows xs₁ (.done a) ∧ (f a).Follows xs₂ q ∧ xs = xs₁ ++ xs₂) ∨
      ∃ p', p.Follows xs p' ∧ q = p'.bind f := by
  induction p generalizing xs with
  | done a => exact Or.inl ⟨a, [], xs, .refl _, h, rfl⟩
  | log r next ih =>
    cases h with
    | refl => exact Or.inr ⟨_, .refl _, rfl⟩
    | log rest =>
      rcases ih rest with ⟨a, xs₁, xs₂, h₁, h₂, rfl⟩ | ⟨p', h₁, rfl⟩
      · exact Or.inl ⟨a, xs₁, xs₂, .log h₁, h₂, rfl⟩
      · exact Or.inr ⟨p', .log h₁, rfl⟩
  | close s next ih =>
    cases h with
    | refl => exact Or.inr ⟨_, .refl _, rfl⟩
    | close rest =>
      rcases ih rest with ⟨a, xs₁, xs₂, h₁, h₂, rfl⟩ | ⟨p', h₁, rfl⟩
      · exact Or.inl ⟨a, _, xs₂, .close h₁, h₂, rfl⟩
      · exact Or.inr ⟨p', .close h₁, rfl⟩
  | call c next ih =>
    cases h with
    | refl => exact Or.inr ⟨_, .refl _, rfl⟩
    | call reply rest =>
      rcases ih reply rest with ⟨a, xs₁, xs₂, h₁, h₂, rfl⟩ | ⟨p', h₁, rfl⟩
      · exact Or.inl ⟨a, _, xs₂, .call reply h₁, h₂, rfl⟩
      · exact Or.inr ⟨p', .call reply h₁, rfl⟩

theorem Follows.bind_done {p : Program α} {f : α → Program β} {xs : List Exchange} {b : β}
    (h : (p >>= f).Follows xs (.done b)) :
    ∃ a xs₁ xs₂, p.Follows xs₁ (.done a) ∧ (f a).Follows xs₂ (.done b) ∧ xs = xs₁ ++ xs₂ := by
  rcases Follows.bind_inv h with hends | ⟨p', hp, hq⟩
  · exact hends
  · cases p' with
    | done a => exact ⟨a, xs, [], hp, hq ▸ .refl _, (List.append_nil xs).symm⟩
    | _ => cases hq

theorem Follows.of_log {r : LogRecord} {f : Unit → Program β} {xs : List Exchange} {b : β}
    (h : (Program.log r (.done ()) >>= f).Follows xs (.done b)) : (f ()).Follows xs (.done b) := by
  cases h with
  | log rest => exact rest

theorem Follows.of_pure {a b : α} {xs : List Exchange}
    (h : (pure a : Program α).Follows xs (.done b)) : b = a ∧ xs = [] := by
  cases h
  exact ⟨rfl, rfl⟩

theorem Follows.of_call {c : Call} {f : Except DbError c.Answer → Program β} {xs : List Exchange}
    {b : β} (h : (perform c >>= f).Follows xs (.done b)) :
    ∃ r ys, xs = .call c r :: ys ∧ (f r).Follows ys (.done b) := by
  cases h with
  | call r rest => exact ⟨r, _, rfl, rest⟩

theorem Follows.trans {p q r : Program α} {xs ys : List Exchange} (h : p.Follows xs q)
    (rest : q.Follows ys r) : p.Follows (xs ++ ys) r := by
  induction h with
  | refl p => exact rest
  | log _ ih => exact .log (ih rest)
  | close _ ih => exact .close (ih rest)
  | call reply _ ih => exact .call reply (ih rest)

theorem Follows.bind {p p' : Program α} {xs : List Exchange} (h : p.Follows xs p')
    (f : α → Program β) : (p >>= f).Follows xs (p' >>= f) := by
  induction h with
  | refl p => exact .refl _
  | log _ ih => exact .log ih
  | close _ ih => exact .close ih
  | call reply _ ih => exact .call reply ih

theorem Follows.result_eq {p : Program α} {xs : List Exchange} {a b : α}
    (h : p.Follows xs (.done a)) (h' : p.Follows xs (.done b)) : a = b := by
  induction p generalizing xs with
  | done c =>
    cases h
    cases h'
    rfl
  | log r next ih =>
    cases h with
    | log h =>
      cases h' with
      | log h' => exact ih h h'
  | close s next ih =>
    cases h with
    | close h =>
      cases h' with
      | close h' => exact ih h h'
  | call c next ih =>
    cases h with
    | call reply h =>
      cases h' with
      | call _ h' => exact ih reply h h'

theorem Follows.calls_of_only {p q : Program α} {xs : List Exchange} (h : p.Follows xs q)
    (hp : p.Only φ) : (∀ c r, .call c r ∈ xs → φ c) ∧ q.Only φ := by
  induction h with
  | refl p => exact ⟨by simp, hp⟩
  | log _ ih => exact ih hp
  | close _ ih =>
    obtain ⟨hxs, hq⟩ := ih hp
    exact ⟨by simpa using hxs, hq⟩
  | @call c next xs q reply _ ih =>
    obtain ⟨hxs, hq⟩ := ih (hp.2 reply)
    refine ⟨?_, hq⟩
    intro c' r hc
    rcases List.mem_cons.1 hc with hc | hc
    · cases hc
      exact hp.1
    · exact hxs c' r hc

end Program

/-! ## The database -/

/--
The database gives the exchanges in their order. Between a call that waits and its reply, others may
have changed all but the session that waits.
-/
inductive Scene.Gives : Scene → List Exchange → Scene → Prop
  | nil (sc : Scene) : Gives sc [] sc
  | drop {s sc xs sc'} (rest : Gives (sc.after (sc.database.drop s)) xs sc') :
      Gives sc (.drop s :: xs) sc'
  | answered {c sc reply db xs sc'} (hs : sc.database.serve c = .answered reply db)
      (rest : Gives (sc.after db) xs sc') : Gives sc (.call c reply :: xs) sc'
  | granted {c sc s lock granted db e e' xs sc'}
      (hs : sc.database.serve c = .waiting s lock granted db) (he : e.Sound) (hk : db.Keeps s e)
      (hg : e.grant? s lock = some e') (rest : Gives (.start e') xs sc') :
      Gives sc (.call c (.ok granted) :: xs) sc'

namespace Scene

variable {sc sc' : Scene} {xs ys : List Exchange} {s : Nat}

theorem Gives.append_inv (h : sc.Gives (xs ++ ys) sc') :
    ∃ sc₁, sc.Gives xs sc₁ ∧ sc₁.Gives ys sc' := by
  induction xs generalizing sc with
  | nil => exact ⟨sc, .nil sc, h⟩
  | cons x xs ih =>
    cases h with
    | drop rest =>
      obtain ⟨sc₁, h₁, h₂⟩ := ih rest
      exact ⟨sc₁, .drop h₁, h₂⟩
    | answered hs rest =>
      obtain ⟨sc₁, h₁, h₂⟩ := ih rest
      exact ⟨sc₁, .answered hs h₁, h₂⟩
    | granted hs he hk hg rest =>
      obtain ⟨sc₁, h₁, h₂⟩ := ih rest
      exact ⟨sc₁, .granted hs he hk hg h₁, h₂⟩

theorem begun_of_opened? {db db' : Database} {c : Call} {r : Except DbError c.Answer}
    {t : SessionId} (hs : db.serve c = .answered r db')
    (ho : (Exchange.call c r).opened? = some t) : t = db.begun + 1 ∧ db'.begun = db.begun + 1 := by
  cases c with
  | begin options =>
    rcases Database.serve_begin hs with ⟨e, rfl, -⟩ | ⟨rfl, rfl⟩
    · cases ho
    · cases ho
      exact ⟨rfl, rfl⟩
  | _ => cases ho

theorem Gives.numbered (h : sc.Gives xs sc') :
    sc.database.begun ≤ sc'.database.begun ∧
      (∀ t ∈ opened xs, sc.database.begun < t ∧ t ≤ sc'.database.begun) ∧
      (opened xs).Pairwise (· < ·) := by
  induction h with
  | nil sc => exact ⟨Nat.le_refl _, by simp [opened], .nil⟩
  | drop _ ih => exact ih
  | @answered c sc reply db xs sc' hs _ ih =>
    obtain ⟨hbegun, hopened, hpairs⟩ := ih
    have hle : sc.database.begun ≤ db.begun := (Database.serve_opens hs).1
    have hrest (t : Nat) (ht : t ∈ opened xs) :
        sc.database.begun < t ∧ t ≤ sc'.database.begun :=
      ⟨Nat.lt_of_le_of_lt hle (hopened t ht).1, (hopened t ht).2⟩
    cases ho : (Exchange.call c reply).opened? with
    | none =>
      have hxs : opened (.call c reply :: xs) = opened xs := List.filterMap_cons_none ho
      rw [hxs]
      exact ⟨Nat.le_trans hle hbegun, hrest, hpairs⟩
    | some t =>
      have hxs : opened (.call c reply :: xs) = t :: opened xs := List.filterMap_cons_some ho
      obtain ⟨rfl, hdb⟩ := begun_of_opened? hs ho
      have hbegun' : db.begun ≤ sc'.database.begun := hbegun
      rw [hxs]
      refine ⟨Nat.le_trans hle hbegun, ?_, ?_⟩
      · intro u hu
        rcases List.mem_cons.1 hu with rfl | hu
        · exact ⟨Nat.lt_succ_self _, hdb ▸ hbegun'⟩
        · exact hrest u hu
      · refine List.pairwise_cons.2 ⟨?_, hpairs⟩
        intro u hu
        have hlt : db.begun < u := (hopened u hu).1
        rwa [hdb] at hlt
  | @granted c sc s lock granted db e e' xs sc' hs he hk hg _ ih =>
    obtain ⟨hbegun, hopened, hpairs⟩ := ih
    obtain ⟨hkind, -, -, rfl⟩ := Database.serve_waiting hs
    have hle : sc.database.begun ≤ e'.begun := by
      rw [Database.begun_of_grant? hg]
      exact hk.begun
    have hxs : opened (.call c (.ok granted) :: xs) = opened xs := by
      cases c with
      | query t q ps => rfl
      | _ => cases hkind
    rw [hxs]
    refine ⟨Nat.le_trans hle hbegun, ?_, hpairs⟩
    exact fun t ht => ⟨Nat.lt_of_le_of_lt hle (hopened t ht).1, (hopened t ht).2⟩

theorem Gives.closed_of_ends {x : Exchange} (h : sc.Gives [x] sc') (hx : x.Ends s) :
    ¬ sc'.database.IsOpen s := by
  have hended (db : Database) : ¬ (db.endSession s).IsOpen s :=
    fun ho => (Database.isOpen_endSession_iff.1 ho).1 rfl
  cases h with
  | drop rest =>
    cases rest
    obtain rfl : _ = s := hx
    exact hended _
  | @answered c _ reply db _ _ hs rest =>
    cases rest
    cases c with
    | commit t =>
      obtain rfl : t = s := hx
      rcases Database.serve_commit hs with ⟨e, -, rfl⟩ | ⟨-, rfl⟩
      · exact hended _
      · exact hended (sc.database.asked (.commit t))
    | rollback t =>
      obtain rfl : t = s := hx
      obtain rfl := Database.serve_rollback hs
      exact hended _
    | _ => cases hx
  | @granted c _ t lock granted db e e' _ _ hs _ _ _ rest =>
    cases c with
    | query u q ps => cases hx
    | _ => cases (Database.serve_waiting hs).1

theorem Gives.stays_closed (h : sc.Gives xs sc') (hxs : ∀ c r, .call c r ∈ xs → c.kind ≠ .query)
    (hs : ¬ sc.database.IsOpen s) (hb : s ≤ sc.database.begun) : ¬ sc'.database.IsOpen s := by
  induction h with
  | nil sc => exact hs
  | drop _ ih =>
    apply ih (fun c r hc => hxs c r (List.mem_cons_of_mem _ hc)) _ hb
    exact fun ho => hs (Database.isOpen_endSession_iff.1 ho).2
  | answered hv _ ih =>
    obtain ⟨hbegun, hopens, -⟩ := Database.serve_opens hv
    refine ih (fun c r hc => hxs c r (List.mem_cons_of_mem _ hc)) ?_ (Nat.le_trans hb hbegun)
    intro ho
    rcases hopens s ho with hold | hnew
    · exact hs hold
    · exact absurd hb (Nat.not_le_of_lt hnew)
  | granted hv => exact absurd (Database.serve_waiting hv).1 (hxs _ _ List.mem_cons_self)

end Scene

/-! ## Courses -/

namespace Program

variable {α β : Type} {P : Terms} {p : Program α} {sc sc' : Scene} {es : List Event}
  {xs ys : List Exchange} {held : Option Call} {st : Standing α}

theorem Dialogue.follows (h : Dialogue P p sc xs held st sc') :
    (∃ a, st = .ended a ∧ held = none ∧ p.Follows xs (.done a) ∧ sc.Gives xs sc') ∨
      ∃ r c next, st = .suspended r ∧ held = some c ∧ p.Follows xs (.call c next) := by
  induction h with
  | done a sc => exact Or.inl ⟨a, rfl, rfl, .refl _, .nil _⟩
  | log _ ih =>
    rcases ih with ⟨a, ha, hheld, hp, hsc⟩ | ⟨r, c, next, hr, hc, hp⟩
    · exact Or.inl ⟨a, ha, hheld, .log hp, hsc⟩
    · exact Or.inr ⟨r, c, next, hr, hc, .log hp⟩
  | close _ ih =>
    rcases ih with ⟨a, ha, hheld, hp, hsc⟩ | ⟨r, c, next, hr, hc, hp⟩
    · exact Or.inl ⟨a, ha, hheld, .close hp, .drop hsc⟩
    · exact Or.inr ⟨r, c, next, hr, hc, .close hp⟩
  | answered _ hs _ ih =>
    rcases ih with ⟨a, ha, hheld, hp, hsc⟩ | ⟨r, c, next, hr, hc, hp⟩
    · exact Or.inl ⟨a, ha, hheld, .call _ hp, .answered hs hsc⟩
    · exact Or.inr ⟨r, c, next, hr, hc, .call _ hp⟩
  | blocked _ _ => exact Or.inr ⟨_, _, _, rfl, rfl, .refl _⟩
  | waiting _ _ => exact Or.inr ⟨_, _, _, rfl, rfl, .refl _⟩
  | granted _ hs he hk hg _ ih =>
    rcases ih with ⟨a, ha, hheld, hp, hsc⟩ | ⟨r, c, next, hr, hc, hp⟩
    · exact Or.inl ⟨a, ha, hheld, .call _ hp, .granted hs he hk hg hsc⟩
    · exact Or.inr ⟨r, c, next, hr, hc, .call _ hp⟩

theorem Dialogue.follows_ended {a : α} (h : Dialogue P p sc xs held (.ended a) sc') :
    p.Follows xs (.done a) ∧ sc.Gives xs sc' := by
  rcases h.follows with ⟨b, hb, -, hp⟩ | ⟨r, c, next, hr, -⟩
  · cases hb
    exact hp
  · cases hr

theorem Dialogue.follows_suspended {r : Suspended α}
    (h : Dialogue P p sc xs held (.suspended r) sc') :
    ∃ c next, held = some c ∧ p.Follows xs (.call c next) := by
  rcases h.follows with ⟨b, hb, -⟩ | ⟨r, c, next, -, hc, hp⟩
  · cases hb
  · exact ⟨c, next, hc, hp⟩

theorem Course.dialogue_ended {a : α} (h : Course P p sc es (.ended a) sc') :
    ∃ xs, Dialogue P p sc xs none (.ended a) sc' ∧ es = xs.map Exchange.event := by
  obtain ⟨xs, held, hdialogue, rfl⟩ := h.dialogue
  rcases hdialogue.follows with ⟨b, -, rfl, -⟩ | ⟨r, c, next, hr, -⟩
  · exact ⟨xs, hdialogue, shown_none xs⟩
  · cases hr

theorem Course.exchanges {a : α} (h : Course P p sc es (.ended a) sc') :
    ∃ xs, p.Follows xs (.done a) ∧ sc.Gives xs sc' ∧ es = xs.map Exchange.event := by
  obtain ⟨xs, hdialogue, rfl⟩ := h.dialogue_ended
  exact ⟨xs, hdialogue.follows_ended.1, hdialogue.follows_ended.2, rfl⟩

theorem Dialogue.of_log {r : LogRecord} {f : Unit → Program α}
    (h : Dialogue P (Program.log r (.done ()) >>= f) sc xs held st sc') :
    Dialogue P (f ()) sc xs held st sc' := by
  cases h with
  | log rest => exact rest

theorem Dialogue.bind {f : α → Program β} {a : α} {sc₁ : Scene} {last : Option Call}
    {st : Standing β} (h : Dialogue P p sc xs last (.ended a) sc₁)
    (rest : Dialogue P (f a) sc₁ ys held st sc') :
    Dialogue P (p >>= f) sc (xs ++ ys) held st sc' := by
  generalize hst : Standing.ended a = st₁ at h
  induction h with
  | done a sc =>
    cases hst
    exact rest
  | log _ ih => exact .log (ih rest hst)
  | close _ ih => exact .close (ih rest hst)
  | answered hp hs _ ih => exact .answered hp hs (ih rest hst)
  | blocked hp hs => cases hst
  | waiting hp hs => cases hst
  | granted hp hs he hk hg _ ih => exact .granted hp hs he hk hg (ih rest hst)

/-- The replies tell that the first part has ended, and so that the program has gone on with it. -/
theorem Dialogue.after {f : α → Program β} {a : α} {st : Standing β}
    (h : Dialogue P (p >>= f) sc (xs ++ ys) held st sc') (hp : p.Follows xs (.done a)) :
    ∃ sc₁, Dialogue P p sc xs none (.ended a) sc₁ ∧ Dialogue P (f a) sc₁ ys held st sc' := by
  generalize hq : Program.done a = q at hp
  induction hp generalizing sc with
  | refl p =>
    subst hq
    exact ⟨sc, .done a sc, h⟩
  | log _ ih =>
    cases h with
    | log rest =>
      obtain ⟨sc₁, h₁, h₂⟩ := ih rest hq
      exact ⟨sc₁, .log h₁, h₂⟩
  | close _ ih =>
    cases h with
    | close rest =>
      obtain ⟨sc₁, h₁, h₂⟩ := ih rest hq
      exact ⟨sc₁, .close h₁, h₂⟩
  | call reply _ ih =>
    cases h with
    | answered hp hs rest =>
      obtain ⟨sc₁, h₁, h₂⟩ := ih rest hq
      exact ⟨sc₁, .answered hp hs h₁, h₂⟩
    | granted hp hs he hk hg rest =>
      obtain ⟨sc₁, h₁, h₂⟩ := ih rest hq
      exact ⟨sc₁, .granted hp hs he hk hg h₁, h₂⟩

end Program

end SchemaMigration
