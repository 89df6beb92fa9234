import Mathlib.Data.List.Infix
import Mathlib.Logic.Relation
import SchemaMigration.Engine.Error
import SchemaMigration.Proofs.Encoding

/-!
# The detailed account of an error

An error may have a cause, and that one a cause of its own. A failure that could not be recorded
comes along with the error that kept it from being recorded, and is no cause of it. The detailed
account names the causes in turn, and tells an earlier failure as the text of the error quotes it.
What such a failure has behind a context is left out, and nothing else is.
-/

namespace SchemaMigration

/-! ## What is behind an error -/

/-- An error that may be behind a migration's. -/
inductive Failure where
  | config (e : ConfigError)
  | cause (c : Cause)
  /-- What the connection says about an error of the server. -/
  | report (code : Nat) (state message : String)
  /-- The error of the server itself. -/
  | reply (code : Nat) (state message : String)

def DbError.source? : DbError → Option Failure
  | server code state m => some (.report code state m)
  | _ => none

namespace MigrateError

def source? : MigrateError → Option Failure
  | configuration e => some (.config e)
  | invalidMigration _ _ | rejected _ _ _ _ | lockState _ => none
  | execution _ _ _ cause => some (.cause cause)
  | statusPersistence _ _ _ cause | tracking _ _ cause | lock _ _ cause | introspection _ cause =>
    some (.cause (.database cause))

end MigrateError

namespace Failure

def text : Failure → String
  | config e => e.message
  | cause c => c.text
  | report code state m => "Server error: `" ++ DbError.serverText code state m ++ "'"
  | reply code state m => DbError.serverText code state m

/-- The cause of the error. -/
def source? : Failure → Option Failure
  | config _ | cause (.message _) | reply _ _ _ => none
  | cause (.context _ inner) => some (.cause inner)
  | cause (.database e) => e.source?
  | cause (.migration e) => e.source?
  | report code state m => some (.reply code state m)

/-- The failure that the error kept from being recorded. -/
def earlier? : Failure → Option Failure
  | cause (.migration e) => e.earlier.map fun o => .cause (.migration o)
  | _ => none

/-- A context says nothing of what it is put in front of. -/
def isContext : Failure → Bool
  | cause (.context _ _) => true
  | _ => false

def CausedBy (f g : Failure) : Prop := f.source? = some g

def LeadsTo (f g : Failure) : Prop := f.source? = some g ∨ f.earlier? = some g

def Quotes (f g : Failure) : Prop := f.LeadsTo g ∧ f.isContext = false

/-- All errors that contributed to this one, itself among them. -/
def Reaches : Failure → Failure → Prop := Relation.ReflTransGen LeadsTo

end Failure

/-! ## Texts within texts -/

def IsWithin (s t : String) : Prop := s.toList <:+: t.toList

namespace IsWithin

variable {s t u : String}

theorem refl (s : String) : IsWithin s s := List.infix_rfl

theorem trans (h : IsWithin s t) (h' : IsWithin t u) : IsWithin s u := List.IsInfix.trans h h'

theorem append_left (h : IsWithin s t) (u : String) : IsWithin s (u ++ t) := by
  unfold IsWithin
  rw [String.toList_append]
  exact List.IsInfix.trans h (List.suffix_append _ _).isInfix

theorem append_right (h : IsWithin s t) (u : String) : IsWithin s (t ++ u) := by
  unfold IsWithin
  rw [String.toList_append]
  exact List.IsInfix.trans h (List.prefix_append _ _).isInfix

theorem of_append (s t : String) : IsWithin t (s ++ t) := (refl t).append_left s

theorem join {ts : List String} (h : IsWithin s t) (ht : t ∈ ts) : IsWithin s (String.join ts) := by
  induction ts with
  | nil => cases ht
  | cons t' ts ih =>
    rw [String.join_cons]
    rcases List.mem_cons.1 ht with rfl | ht
    · exact h.append_right _
    · exact (ih ht).append_left _

theorem bytes (h : IsWithin s t) : s.toByteArray.data.toList <:+: t.toByteArray.data.toList := by
  rw [Utf8.toList_toByteArray, Utf8.toList_toByteArray]
  exact List.IsInfix.flatMap h _

end IsWithin

/-! ## What a text quotes -/

theorem DbError.quotes_source {e : DbError} {f : Failure} (h : e.source? = some f) :
    IsWithin f.text e.message := by
  cases e with
  | server code state m =>
    cases h
    have hstart :
        "[D006] MySQL error: Server error: `" = "[D006] MySQL error: " ++ "Server error: `" :=
      by decide
    have hmessage : (server code state m).message =
        "[D006] MySQL error: " ++ ("Server error: `" ++ serverText code state m ++ "'") := by
      rw [← String.append_assoc, ← String.append_assoc, ← hstart]
      rfl
    rw [hmessage]
    exact .of_append _ _
  | _ => cases h

namespace MigrateError

variable {e o : MigrateError} {f : Failure}

theorem quotes_source (h : e.source? = some f) : IsWithin f.text e.message := by
  cases e with
  | configuration e =>
    cases h
    exact .of_append _ _
  | invalidMigration | rejected | lockState => cases h
  | execution name phase sql cause =>
    cases h
    exact .of_append _ _
  | statusPersistence name phase earlier cause =>
    cases h
    cases earlier with
    | none => exact .of_append _ _
    | some o => exact (((IsWithin.of_append _ _).append_right _).append_right _).append_right _
  | tracking table operation cause =>
    cases h
    exact .of_append _ _
  | lock lockName operation cause =>
    cases h
    exact .of_append _ _
  | introspection target cause =>
    cases h
    exact .of_append _ _

theorem quotes_earlier (h : e.earlier = some o) : IsWithin o.message e.message := by
  cases e with
  | statusPersistence name phase earlier cause =>
    cases h
    exact (IsWithin.of_append _ _).append_right _
  | _ => cases h

end MigrateError

namespace Failure

variable {f g : Failure} {s : String} {e : MigrateError}

theorem Quotes.isWithin (h : f.Quotes g) : IsWithin g.text f.text := by
  obtain ⟨hleads, hcontext⟩ := h
  cases f with
  | config e => rcases hleads with h | h <;> cases h
  | reply code state m => rcases hleads with h | h <;> cases h
  | report code state m =>
    rcases hleads with h | h
    · cases h
      exact (IsWithin.of_append _ _).append_right _
    · cases h
  | cause c =>
    cases c with
    | message t => rcases hleads with h | h <;> cases h
    | context t inner => cases hcontext
    | database e =>
      rcases hleads with h | h
      · exact DbError.quotes_source h
      · cases h
    | migration e =>
      rcases hleads with h | h
      · exact MigrateError.quotes_source h
      · obtain ⟨o, ho, rfl⟩ := Option.map_eq_some_iff.1 h
        exact MigrateError.quotes_earlier ho

theorem isWithin_of_quotes (h : Relation.ReflTransGen Quotes f g) : IsWithin g.text f.text := by
  induction h with
  | refl => exact .refl _
  | tail _ h ih => exact h.isWithin.trans ih

/-! ## Along the causes -/

/-- The texts of an error and of its causes. -/
def chain : Failure → List String
  | config e => [e.message]
  | cause c => c.chain
  | report code state m => [(report code state m).text, (reply code state m).text]
  | reply code state m => [(reply code state m).text]

theorem chain_eq (f : Failure) : f.chain = f.text :: (f.source?.map chain).getD [] := by
  cases f with
  | config e => rfl
  | report code state m => rfl
  | reply code state m => rfl
  | cause c =>
    cases c with
    | message t => rfl
    | context t inner => rfl
    | database e => cases e <;> rfl
    | migration e => cases e <;> rfl

theorem mem_chain (h : Relation.ReflTransGen CausedBy f g) : g.text ∈ f.chain := by
  induction h using Relation.ReflTransGen.head_induction_on with
  | refl =>
    rw [chain_eq]
    exact List.mem_cons_self
  | @head f f' h _ ih =>
    have hsource : f.source? = some f' := h
    rw [chain_eq, hsource]
    exact List.mem_cons_of_mem _ ih

end Failure

theorem MigrateError.isWithin_detailed {e : MigrateError} {s : String}
    (h : s ∈ (Failure.cause (.migration e)).chain) : IsWithin s e.detailed := by
  have hchain : (Failure.cause (.migration e)).chain = e.message :: e.sources := rfl
  rw [hchain] at h
  rcases List.mem_cons.1 h with rfl | h
  · exact ((IsWithin.of_append _ _).append_right _).append_right _
  · obtain ⟨i, hi, rfl⟩ := List.mem_iff_getElem.1 h
    have hmem : numberedCause i e.sources[i] ∈ e.sources.mapIdx numberedCause :=
      List.mem_mapIdx.2 ⟨i, hi, rfl⟩
    exact ((IsWithin.of_append _ _).join hmem).append_left _

/-! ## What the account leaves out -/

mutual

/-- The cause with nothing behind its contexts. -/
def Cause.bare : Cause → Cause
  | .context text _ => .message text
  | .migration e => .migration e.bare
  | .message text => .message text
  | .database e => .database e

def MigrateError.bare : MigrateError → MigrateError
  | .execution name phase sql cause => .execution name phase sql cause.bare
  | .statusPersistence name phase (some earlier) cause =>
    .statusPersistence name phase (some earlier.bare) cause
  | e => e

end

mutual

/-- The cause with every earlier failure bare. -/
def Cause.disclosed : Cause → Cause
  | .context text inner => .context text inner.disclosed
  | .migration e => .migration e.disclosed
  | .message text => .message text
  | .database e => .database e

def MigrateError.disclosed : MigrateError → MigrateError
  | .execution name phase sql cause => .execution name phase sql cause.disclosed
  | .statusPersistence name phase (some earlier) cause =>
    .statusPersistence name phase (some earlier.bare) cause
  | e => e

end

mutual

theorem Cause.text_bare : ∀ c : Cause, c.bare.text = c.text
  | .message _ | .context _ _ | .database _ => rfl
  | .migration e => e.message_bare

theorem MigrateError.message_bare : ∀ e : MigrateError, e.bare.message = e.message
  | .execution _ _ _ cause => congrArg (_ ++ ·) cause.text_bare
  | .statusPersistence _ _ (some earlier) _ =>
    congrArg (_ ++ · ++ ")") earlier.message_bare
  | .statusPersistence _ _ none _ | .configuration _ | .invalidMigration _ _ | .rejected _ _ _ _
  | .lockState _ | .tracking _ _ _ | .lock _ _ _ | .introspection _ _ => rfl

end

mutual

theorem Cause.text_disclosed : ∀ c : Cause, c.disclosed.text = c.text
  | .message _ | .context _ _ | .database _ => rfl
  | .migration e => e.message_disclosed

theorem MigrateError.message_disclosed : ∀ e : MigrateError, e.disclosed.message = e.message
  | .execution _ _ _ cause => congrArg (_ ++ ·) cause.text_disclosed
  | .statusPersistence _ _ (some earlier) _ =>
    congrArg (_ ++ · ++ ")") earlier.message_bare
  | .statusPersistence _ _ none _ | .configuration _ | .invalidMigration _ _ | .rejected _ _ _ _
  | .lockState _ | .tracking _ _ _ | .lock _ _ _ | .introspection _ _ => rfl

end

mutual

theorem Cause.chain_disclosed : ∀ c : Cause, c.disclosed.chain = c.chain
  | .message _ | .database _ => rfl
  | .context text inner => congrArg (text :: ·) inner.chain_disclosed
  | .migration e => congrArg₂ List.cons e.message_disclosed e.sources_disclosed

theorem MigrateError.sources_disclosed : ∀ e : MigrateError, e.disclosed.sources = e.sources
  | .execution _ _ _ cause => cause.chain_disclosed
  | .statusPersistence _ _ (some _) _ | .statusPersistence _ _ none _ | .configuration _
  | .invalidMigration _ _ | .rejected _ _ _ _ | .lockState _ | .tracking _ _ _ | .lock _ _ _
  | .introspection _ _ => rfl

end

theorem MigrateError.detailed_disclosed (e : MigrateError) : e.disclosed.detailed = e.detailed := by
  unfold detailed
  rw [e.message_disclosed, e.sources_disclosed]

namespace Failure

variable {f g : Failure}

def bare : Failure → Failure
  | cause c => .cause c.bare
  | f => f

def disclosed : Failure → Failure
  | cause c => .cause c.disclosed
  | f => f

end Failure

namespace MigrateError

theorem source?_bare (e : MigrateError) : e.bare.source? = e.source?.map Failure.bare := by
  cases e with
  | statusPersistence _ _ earlier _ => cases earlier <;> rfl
  | _ => rfl

theorem earlier_bare (e : MigrateError) : e.bare.earlier = e.earlier.map bare := by
  cases e with
  | statusPersistence _ _ earlier _ => cases earlier <;> rfl
  | _ => rfl

theorem source?_disclosed (e : MigrateError) :
    e.disclosed.source? = e.source?.map Failure.disclosed := by
  cases e with
  | statusPersistence _ _ earlier _ => cases earlier <;> rfl
  | _ => rfl

theorem earlier_disclosed (e : MigrateError) : e.disclosed.earlier = e.earlier.map bare := by
  cases e with
  | statusPersistence _ _ earlier _ => cases earlier <;> rfl
  | _ => rfl

end MigrateError

namespace Failure

variable {f g : Failure}

theorem isContext_bare (f : Failure) : f.bare.isContext = false := by
  cases f with
  | cause c => cases c <;> rfl
  | _ => rfl

theorem isContext_of_earlier? (h : f.earlier? = some g) : f.isContext = false := by
  cases f with
  | cause c =>
    cases c with
    | context t inner => cases h
    | _ => rfl
  | _ => rfl

theorem bare_of_leadsTo (h : f.bare.LeadsTo g) : ∃ f', Failure.bare f' = g := by
  cases f with
  | config e => rcases h with h | h <;> cases h
  | reply code state m => rcases h with h | h <;> cases h
  | report code state m =>
    rcases h with h | h
    · cases h
      exact ⟨reply code state m, rfl⟩
    · cases h
  | cause c =>
    cases c with
    | message t => rcases h with h | h <;> cases h
    | context t inner => rcases h with h | h <;> cases h
    | database e =>
      cases e with
      | server code state m =>
        rcases h with h | h
        · cases h
          exact ⟨report code state m, rfl⟩
        · cases h
      | _ => rcases h with h | h <;> cases h
    | migration e =>
      rcases h with h | h
      · have hsource : e.source?.map bare = some g := e.source?_bare.symm.trans h
        obtain ⟨f', -, hf'⟩ := Option.map_eq_some_iff.1 hsource
        exact ⟨f', hf'⟩
      · obtain ⟨o, ho, rfl⟩ := Option.map_eq_some_iff.1 h
        rw [e.earlier_bare] at ho
        obtain ⟨o', -, rfl⟩ := Option.map_eq_some_iff.1 ho
        exact ⟨cause (.migration o'), rfl⟩

theorem disclosed_of_source? (h : f.disclosed.source? = some g) :
    ∃ f', Failure.disclosed f' = g := by
  cases f with
  | config e => cases h
  | reply code state m => cases h
  | report code state m =>
    cases h
    exact ⟨reply code state m, rfl⟩
  | cause c =>
    cases c with
    | message t => cases h
    | context t inner =>
      cases h
      exact ⟨cause inner, rfl⟩
    | database e =>
      cases e with
      | server code state m =>
        cases h
        exact ⟨report code state m, rfl⟩
      | _ => cases h
    | migration e =>
      have hsource : e.source?.map disclosed = some g := e.source?_disclosed.symm.trans h
      obtain ⟨f', -, hf'⟩ := Option.map_eq_some_iff.1 hsource
      exact ⟨f', hf'⟩

theorem bare_of_earlier? (h : f.disclosed.earlier? = some g) : ∃ f', Failure.bare f' = g := by
  cases f with
  | cause c =>
    cases c with
    | migration e =>
      obtain ⟨o, ho, rfl⟩ := Option.map_eq_some_iff.1 h
      rw [e.earlier_disclosed] at ho
      obtain ⟨o', -, rfl⟩ := Option.map_eq_some_iff.1 ho
      exact ⟨cause (.migration o'), rfl⟩
    | _ => cases h
  | _ => cases h

theorem quotes_of_bare (h : f.bare.Reaches g) : Relation.ReflTransGen Quotes f.bare g := by
  generalize hf : f.bare = b at h
  induction h using Relation.ReflTransGen.head_induction_on generalizing f with
  | refl => exact .refl
  | head hleads _ ih =>
    subst hf
    obtain ⟨f', hf'⟩ := bare_of_leadsTo hleads
    exact .head ⟨hleads, f.isContext_bare⟩ (ih hf')

theorem exists_cause_of_disclosed (h : f.disclosed.Reaches g) :
    ∃ c, Relation.ReflTransGen CausedBy f.disclosed c ∧ Relation.ReflTransGen Quotes c g := by
  generalize hf : f.disclosed = d at h
  induction h using Relation.ReflTransGen.head_induction_on generalizing f with
  | refl => exact ⟨g, .refl, .refl⟩
  | @head d d' hleads hrest ih =>
    subst hf
    rcases hleads with hsource | hearlier
    · obtain ⟨f', hf'⟩ := disclosed_of_source? hsource
      obtain ⟨c, hcauses, hquotes⟩ := ih hf'
      exact ⟨c, .head hsource hcauses, hquotes⟩
    · obtain ⟨f', rfl⟩ := bare_of_earlier? hearlier
      have hquotes : Quotes f.disclosed f'.bare :=
        ⟨Or.inr hearlier, isContext_of_earlier? hearlier⟩
      exact ⟨f.disclosed, .refl, .head hquotes (quotes_of_bare hrest)⟩

end Failure

/-! ## What the account tells -/

/--
The account has the text of every cause in it, and whatever those texts quote in turn, such as a
failure that could not be recorded. It is the account of the error whose earlier failures have
nothing behind their contexts, and of that one it leaves out no error at all.
-/
theorem MigrateError.detailed_tells (e : MigrateError) :
    (∀ f g, Relation.ReflTransGen Failure.CausedBy (.cause (.migration e)) f →
      Relation.ReflTransGen Failure.Quotes f g → IsWithin g.text e.detailed) ∧
    e.disclosed.detailed = e.detailed ∧
    ∀ f, (Failure.cause (.migration e.disclosed)).Reaches f → IsWithin f.text e.detailed := by
  have htells (e : MigrateError) (f g : Failure)
      (hcauses : Relation.ReflTransGen Failure.CausedBy (.cause (.migration e)) f)
      (hquotes : Relation.ReflTransGen Failure.Quotes f g) : IsWithin g.text e.detailed :=
    (Failure.isWithin_of_quotes hquotes).trans (isWithin_detailed (Failure.mem_chain hcauses))
  refine ⟨htells e, e.detailed_disclosed, ?_⟩
  intro f h
  have hdisclosed :
      (Failure.cause (.migration e)).disclosed = .cause (.migration e.disclosed) := rfl
  rw [← hdisclosed] at h
  obtain ⟨c, hcauses, hquotes⟩ := Failure.exists_cause_of_disclosed h
  rw [← e.detailed_disclosed]
  exact htells e.disclosed c f hcauses hquotes

/-- The server's own words are told, and the outermost text of the failure before. -/
theorem MigrateError.detailed_tells_both :
    let cause : Cause := .context "outer" (.message "root")
    let e : MigrateError := .statusPersistence ⟨"lib", "one"⟩ .begin
      (some (.execution ⟨"lib", "one"⟩ .execute none cause))
      (.server 1040 "08004" "Too many connections")
    let reply : Failure := .reply 1040 "08004" "Too many connections"
    let outermost : Failure := .cause (.message "outer")
    Relation.ReflTransGen Failure.CausedBy (.cause (.migration e)) reply ∧
      IsWithin reply.text e.detailed ∧
      (Failure.cause (.migration e.disclosed)).Reaches outermost ∧
      IsWithin outermost.text e.detailed := by
  intro cause e reply outermost
  have hcauses : Relation.ReflTransGen Failure.CausedBy (.cause (.migration e)) reply :=
    .head rfl (.head rfl (.head rfl .refl))
  have hreaches : (Failure.cause (.migration e.disclosed)).Reaches outermost :=
    .head (Or.inr rfl) (.head (Or.inl rfl) .refl)
  obtain ⟨htells, -, hall⟩ := detailed_tells e
  exact ⟨hcauses, htells _ _ hcauses .refl, hreaches, hall _ hreaches⟩

/-- What went wrong first is behind the error, and its account does not say so. -/
theorem MigrateError.detailed_leaves_out :
    let cause : Cause := .context "outer" (.message "root")
    let e : MigrateError := .statusPersistence ⟨"lib", "one"⟩ .begin
      (some (.execution ⟨"lib", "one"⟩ .execute none cause)) (.connection "pool closed")
    let root : Failure := .cause (.message "root")
    (Failure.cause (.migration e)).Reaches root ∧ ¬ IsWithin root.text e.detailed := by
  intro cause e root
  refine ⟨.head (Or.inr rfl) (.head (Or.inl rfl) (.head (Or.inl rfl) .refl)), ?_⟩
  exact fun h => absurd h.bytes (by decide +kernel)

end SchemaMigration
