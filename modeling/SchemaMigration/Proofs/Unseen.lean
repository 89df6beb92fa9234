import SchemaMigration.Proofs.Parts
import SchemaMigration.Proofs.Reading

/-!
# What the analysis does not see

What a comment says does not count, and nor does what a text literal or a quoted name says. A verb,
a guard or a semicolon put there changes nothing, and neither does a quote in a comment. This holds
for a script that cannot be read too.
-/

namespace SchemaMigration

/-- In the two scripts together a token starts here, and not in an executable comment. -/
def Meets (before after : String) : Prop :=
  ∃ ts, Reads none (before ++ after).toList ts after.toList

/-! ## Comments -/

/-- One whole comment that is no code. One on a line ends with the line. -/
inductive IsComment : String → Prop
  | block (c : String) (hcode : c.toList.head? ≠ some '!') (hend : ¬ ['*', '/'] <:+: c.toList) :
      IsComment ("/*" ++ c ++ "*/")
  | hyphens (c : String) (hline : '\n' ∉ c.toList) : IsComment ("-- " ++ c ++ "\n")
  | hash (c : String) (hline : '\n' ∉ c.toList) : IsComment ("#" ++ c ++ "\n")

theorem splitComment?_content {c : List Char} (hend : ¬ ['*', '/'] <:+: c) (b : List Char) :
    splitComment? (c ++ '*' :: '/' :: b) = some (c, b) := by
  induction c with
  | nil => rfl
  | cons a c ih =>
    have hc : ¬ ['*', '/'] <:+: c := fun h => hend (h.trans (List.suffix_cons a c).isInfix)
    have hsplit := ih hc
    cases c with
    | nil =>
      rw [List.cons_append, List.nil_append, splitComment?, if_neg (by simp)]
      rw [List.nil_append] at hsplit
      rw [hsplit]
      rfl
    | cons d c =>
      have hhere : ¬ (a = '*' ∧ d = '/') := by
        rintro ⟨rfl, rfl⟩
        exact hend ⟨[], c, rfl⟩
      rw [List.cons_append, List.cons_append, splitComment?, if_neg hhere]
      rw [List.cons_append] at hsplit
      rw [hsplit]
      rfl

theorem afterLine_content {c : List Char} (hline : '\n' ∉ c) (b : List Char) :
    afterLine (c ++ '\n' :: b) = b := by
  have hrun : (c ++ '\n' :: b).dropWhile (· ≠ '\n') = '\n' :: b := by
    rw [List.dropWhile_append_of_pos]
    · simp
    · intro a ha
      have hne : a ≠ '\n' := by
        rintro rfl
        exact hline ha
      simpa using hne
  rw [afterLine, hrun, List.drop_one, List.tail_cons]

theorem IsComment.lex {comment : String} (h : IsComment comment) (prev : Option Token)
    (b : List Char) :
    SchemaMigration.lex prev (comment.toList ++ b) =
      (SchemaMigration.lex (some .blank) b).map (.blank :: ·) := by
  cases h with
  | block c hcode hend =>
    have hscan : scan prev '/' ('*' :: (c.toList ++ '*' :: '/' :: b)) = .ok (.token .blank b) := by
      change scanComment (c.toList ++ '*' :: '/' :: b) = _
      unfold scanComment
      rw [splitComment?_content hend]
      split
      · rename_i heq
        simp only [Option.some.injEq, Prod.mk.injEq] at heq
        exact absurd (by rw [heq.1]; rfl) hcode
      · rename_i heq
        cases heq
        rfl
      · rename_i heq
        cases heq
    simpa using lex_token hscan
  | hyphens c hline =>
    have hscan : scan prev '-' ('-' :: ' ' :: (c.toList ++ '\n' :: b)) = .ok (.token .blank b) := by
      change Except.ok (Scanned.token .blank (afterLine ((' ' :: c.toList) ++ '\n' :: b))) = _
      rw [afterLine_content (by simpa using hline)]
    simpa using lex_token hscan
  | hash c hline =>
    have hscan : scan prev '#' (c.toList ++ '\n' :: b) = .ok (.token .blank b) := by
      change Except.ok (Scanned.token .blank (afterLine (c.toList ++ '\n' :: b))) = _
      rw [afterLine_content hline]
    simpa using lex_token hscan

/-! ## Quotes -/

/-- What opens a text literal or a quoted name, and the quote that closes it. -/
def openings : List (String × Char) :=
  [("'", '\''), ("b'", '\''), ("B'", '\''), ("n'", '\''), ("N'", '\''), ("x'", '\''),
    ("X'", '\''), ("\"", '"'), ("b\"", '"'), ("B\"", '"'), ("`", '`')]

/-- What stands between two such quotes and neither ends nor has a say in where that is. -/
def IsContent (quote : Char) (content : String) : Prop :=
  quote ∉ content.toList ∧ '\\' ∉ content.toList

theorem afterQuote?_content {quote : Char} {content b : List Char} (escapes : Bool)
    (hquote : quote ∉ content) (hescape : '\\' ∉ content) (hb : b.head? ≠ some quote) :
    afterQuote? quote escapes (content ++ quote :: b) = some b := by
  induction content with
  | nil =>
    cases b with
    | nil => simp [afterQuote?]
    | cons d b =>
      have hd : d ≠ quote := by simpa using hb
      simp [afterQuote?, hd]
  | cons c content ih =>
    simp only [List.mem_cons, not_or] at hquote hescape
    have hrest := ih hquote.2 hescape.2
    obtain ⟨d, rest, hcons⟩ : ∃ d rest, content ++ quote :: b = d :: rest :=
      List.exists_cons_of_ne_nil (by simp)
    rw [hcons] at hrest
    rw [List.cons_append, hcons, afterQuote?, if_neg (Ne.symm hquote.1), if_neg, hrest]
    simp [Ne.symm hescape.1]

theorem scan_opening {opening : String} {quote : Char} (h : (opening, quote) ∈ openings) :
    ∃ c marks escapes t, opening.toList = c :: marks ∧ isSign c = false ∧
      ∀ prev text rest, afterQuote? quote escapes text = some rest →
        scan prev c (marks ++ text) = .ok (.token t rest) := by
  have hstring {c : Char} {marks : List Char} {escapes : Bool}
      (hscan : ∀ prev text, scan prev c (marks ++ text) = scanString quote escapes text) :
      ∀ prev text rest, afterQuote? quote escapes text = some rest →
        scan prev c (marks ++ text) = .ok (.token .symbol rest) := by
    intro prev text rest hrest
    rw [hscan, scanString, hrest]
  simp only [openings, List.mem_cons, Prod.mk.injEq, List.not_mem_nil, or_false] at h
  rcases h with ⟨rfl, rfl⟩ | ⟨rfl, rfl⟩ | ⟨rfl, rfl⟩ | ⟨rfl, rfl⟩ | ⟨rfl, rfl⟩ | ⟨rfl, rfl⟩ |
    ⟨rfl, rfl⟩ | ⟨rfl, rfl⟩ | ⟨rfl, rfl⟩ | ⟨rfl, rfl⟩ | ⟨rfl, rfl⟩
  case inr.inr.inr.inr.inr.inr.inr.inr.inr.inr =>
    refine ⟨_, [], false, .name, rfl, rfl, fun prev text rest hrest => ?_⟩
    change scanQuotedName text = _
    rw [scanQuotedName, hrest]
  all_goals exact ⟨_, _, _, .symbol, rfl, rfl, hstring fun prev text => rfl⟩

theorem lex_opening {opening : String} {quote : Char} (h : (opening, quote) ∈ openings) :
    ∃ c marks t, opening.toList = c :: marks ∧ isSign c = false ∧
      ∀ prev content b, IsContent quote content → b.head? ≠ some quote →
        lex prev (c :: (marks ++ (content.toList ++ quote :: b))) =
          (lex (some t) b).map (t :: ·) := by
  obtain ⟨c, marks, escapes, t, hopening, hsign, hscan⟩ := scan_opening h
  refine ⟨c, marks, t, hopening, hsign, fun prev content b hcontent hb => ?_⟩
  exact lex_token (hscan prev _ b (afterQuote?_content escapes hcontent.1 hcontent.2 hb))

/-! ## The analysis -/

theorem analyze_congr {sql sql' : String}
    (h : (tokens sql).toOption.map significant = (tokens sql').toOption.map significant) :
    analyze sql = analyze sql' := by
  unfold analyze
  cases hts : tokens sql with
  | error e => cases hts' : tokens sql' with
    | error e' => rfl
    | ok ts' =>
      rw [hts, hts'] at h
      cases h
  | ok ts => cases hts' : tokens sql' with
    | error e' =>
      rw [hts, hts'] at h
      cases h
    | ok ts' =>
      rw [hts, hts'] at h
      have hsignificant : significant ts = significant ts' := Option.some.inj h
      simp only [Analysis.ofTokens]
      rw [← statements_significant ts, hsignificant, statements_significant]

/--
A comment put after a space that is one changes nothing, and neither does saying something else in a
text literal or a quoted name. What stands before and after it is any text, with an error in it or
not.
-/
theorem analyze_unseen :
    (∀ before after comment : String, Meets before (" " ++ after) → IsComment comment →
      analyze (before ++ " " ++ comment ++ after) = analyze (before ++ " " ++ after)) ∧
    ∀ (before after opening content content' : String) (quote : Char),
      (opening, quote) ∈ openings → IsContent quote content → IsContent quote content' →
      after.toList.head? ≠ some quote →
      Meets before (opening ++ content ++ String.singleton quote ++ after) →
      analyze (before ++ opening ++ content' ++ String.singleton quote ++ after) =
        analyze (before ++ opening ++ content ++ String.singleton quote ++ after) := by
  constructor
  · intro before after comment ⟨ts, hreads⟩ hcomment
    have hreads : Reads none (before.toList ++ ' ' :: after.toList) ts (' ' :: after.toList) := by
      simpa using hreads
    have hreads' := hreads.change rfl (comment.toList ++ after.toList)
    have hblank (prev : Option Token) (b : List Char) :
        lex prev (' ' :: b) = (lex (some .blank) b).map (.blank :: ·) := lex_token rfl
    have hlex := hreads.lex
    have hlex' := hreads'.lex
    rw [hblank] at hlex
    rw [hblank, hcomment.lex] at hlex'
    apply analyze_congr
    have htokens : tokens (before ++ " " ++ after) =
        lex none (before.toList ++ ' ' :: after.toList) := by
      simp [tokens]
    have htokens' : tokens (before ++ " " ++ comment ++ after) =
        lex none (before.toList ++ ' ' :: (comment.toList ++ after.toList)) := by
      simp [tokens]
    rw [htokens, htokens', hlex, hlex']
    cases lex (some .blank) after.toList with
    | error e => rfl
    | ok us => simp [Except.map, Except.toOption, significant]
  · intro before after opening content content' quote hopening hcontent hcontent' hafter hmeets
    obtain ⟨ts, hreads⟩ := hmeets
    obtain ⟨c, marks, t, heq, hsign, hlex⟩ := lex_opening hopening
    have hreads : Reads none
        (before.toList ++ c :: (marks ++ (content.toList ++ quote :: after.toList))) ts
        (c :: (marks ++ (content.toList ++ quote :: after.toList))) := by
      simpa [heq] using hreads
    have hreads' := hreads.change hsign (marks ++ (content'.toList ++ quote :: after.toList))
    have htokens (content : String) :
        tokens (before ++ opening ++ content ++ String.singleton quote ++ after) = lex none
          (before.toList ++ c :: (marks ++ (content.toList ++ quote :: after.toList))) := by
      simp [tokens, heq]
    apply analyze_congr
    rw [htokens, htokens, hreads.lex, hreads'.lex, hlex _ content _ hcontent hafter,
      hlex _ content' _ hcontent' hafter]

/-- A comment with an open quote in it, in a script that ends in one, and a name that is a verb. -/
theorem analyze_unseen_drop :
    let comment := "/*" ++ " it's; CALL p " ++ "*/"
    Meets "DROP TABLE" (" " ++ "t; SELECT 'a") ∧ IsComment comment ∧
      analyze ("DROP TABLE" ++ " " ++ comment ++ "t; SELECT 'a") =
        analyze ("DROP TABLE" ++ " " ++ "t; SELECT 'a") ∧
      analyze ("DROP TABLE " ++ "`" ++ "CALL; IF EXISTS" ++ String.singleton '`' ++ ";") =
        analyze ("DROP TABLE " ++ "`" ++ "t" ++ String.singleton '`' ++ ";") := by
  intro comment
  have hcomment : IsComment comment := .block " it's; CALL p " (by decide) (by decide +kernel)
  have hspace : Meets "DROP TABLE" (" " ++ "t; SELECT 'a") :=
    ⟨[.keyword ⟨"DROP"⟩, .blank, .keyword ⟨"TABLE"⟩],
      .token rfl (.token rfl (.token rfl (.stop _ _)))⟩
  have hname : Meets "DROP TABLE " ("`" ++ "t" ++ String.singleton '`' ++ ";") :=
    ⟨[.keyword ⟨"DROP"⟩, .blank, .keyword ⟨"TABLE"⟩, .blank],
      .token rfl (.token rfl (.token rfl (.token rfl (.stop _ _))))⟩
  refine ⟨hspace, hcomment, analyze_unseen.1 _ _ _ hspace hcomment, ?_⟩
  exact analyze_unseen.2 "DROP TABLE " ";" "`" "t" "CALL; IF EXISTS" '`' (by decide)
    ⟨by decide, by decide⟩ ⟨by decide, by decide⟩ (by decide) hname

end SchemaMigration
