import ResidencePortal.Proofs.Web.Outgoing

/-!
# Which token is sent

A session may hold a token for the backend under either of two keys. The first that is a text is taken, and
then dropped if it is blank: what stands under the second key does not count any more. So a blank text
under the first key hides a token under the second, where a value that is no text does not.

**Results.**
* `Visitor.bearer?_eq_head?`: the token of a visitor is the first that can be read, unless it is blank.
* `Visitor.bearer?_of_hidesToken`, `Visitor.bearer?_of_not_hidesToken`: it is missing if one is hidden, and
  else it is the first that is not blank.
* `token_sent_is_first_read`: which token the data of a page is asked for with.
* `blank_token_hides_another`: a session with a token that is never sent.
-/

namespace ResidencePortal

open Text

namespace Session.Visitor

/-- The tokens that can be read, in the order in which they count. -/
def tokens (v : Visitor) : List String := [v.text? Key.accessToken, v.text? Key.token].filterMap id

/-- The first of them that is not blank. -/
def usableToken? (v : Visitor) : Option String := v.tokens.find? fun token => !allBlank token

/-- A text under the first key is blank, and hides one under the second key that is not. -/
def HidesToken (v : Visitor) : Prop :=
  ∃ blank hidden, v.text? Key.accessToken = some blank ∧ allBlank blank = true ∧
    v.text? Key.token = some hidden ∧ allBlank hidden = false

variable {v : Visitor}

/-- **The token of a visitor** is the first that can be read, unless it is blank. -/
theorem bearer?_eq_head? (v : Visitor) : v.bearer? = unlessBlank v.tokens.head? := by
  unfold bearer? tokens
  cases v.text? Key.accessToken with
  | some token => rfl
  | none => cases v.text? Key.token <;> rfl

theorem bearer?_of_hidesToken (h : v.HidesToken) : v.bearer? = none := by
  obtain ⟨blank, hidden, hfirst, hblank, -, -⟩ := h
  rw [bearer?_eq_head?, tokens, hfirst]
  simp [hblank]

/-- A hidden token is the one to use. -/
theorem usableToken?_of_hidesToken (h : v.HidesToken) : v.usableToken? = v.text? Key.token := by
  obtain ⟨blank, hidden, hfirst, hblank, hsecond, hhidden⟩ := h
  rw [usableToken?, tokens, hfirst, hsecond]
  simp [hblank, hhidden]

/-- Where no token is hidden, the first that is not blank is taken. -/
theorem bearer?_of_not_hidesToken (h : ¬ v.HidesToken) : v.bearer? = v.usableToken? := by
  rw [bearer?_eq_head?, usableToken?, tokens]
  cases hfirst : v.text? Key.accessToken with
  | none =>
    cases v.text? Key.token with
    | none => rfl
    | some second => cases hblank : allBlank second <;> simp [hblank]
  | some first =>
    cases hblank : allBlank first with
    | false => simp [hblank]
    | true =>
      cases hsecond : v.text? Key.token with
      | none => simp [hblank]
      | some second =>
        cases hhidden : allBlank second with
        | true => simp [hblank, hhidden]
        | false => exact absurd ⟨first, second, hfirst, hblank, hsecond, hhidden⟩ h

theorem bearer?_eq_usableToken?_iff : v.bearer? = v.usableToken? ↔ ¬ v.HidesToken := by
  refine ⟨fun hsame hhides => ?_, bearer?_of_not_hidesToken⟩
  rw [bearer?_of_hidesToken hhides, usableToken?_of_hidesToken hhides] at hsame
  obtain ⟨_, hidden, -, -, hsecond, -⟩ := hhides
  cases hsame.trans hsecond

end Session.Visitor

namespace Web

open Session

/-- What the data of a page is asked for with: the token of the visitor. -/
theorem bearer_of_pageData (site : Site) (request : Request) (session : CookieStore) :
    ∀ asked ∈ Handler.pageData.outgoing site request session,
      asked.bearer = (Store.visitor session none).bearer? := by
  intro asked hasked
  unfold Handler.outgoing at hasked
  cases hshared : site.shared with
  | none => simp [hshared] at hasked
  | some config =>
    simp only [hshared, Option.mem_toList, Option.map_eq_some_iff] at hasked
    obtain ⟨collection, -, rfl⟩ := hasked
    rfl

/-- **The token that is sent.** The values of a session that are no texts count as missing. Whatever the data
of a page sends, it sends with the first token that is a text, or with none if that token is blank. This is
the first token that is not blank, unless a blank one stands before it under the first key: then nothing is
sent in its place. No other token is ever sent. -/
theorem token_sent_is_first_read (session : CookieStore) :
    (∀ key, (Store.visitor session none).text? key = (session.values.find? key).bind Json.str?) ∧
    (∀ (site : Site) (request : Request) (access : Option Access) (line : Backend.Line), ∃ sent,
      (Handler.pageData.run site request access session line).line.sent = line.sent ++ sent ∧
        ∀ asked ∈ sent, asked.bearer = (Store.visitor session none).bearer?) ∧
    (Store.visitor session none).bearer? = unlessBlank (Store.visitor session none).tokens.head? ∧
    ((Store.visitor session none).bearer? = (Store.visitor session none).usableToken? ↔
      ¬ (Store.visitor session none).HidesToken) ∧
    ((Store.visitor session none).HidesToken → (Store.visitor session none).bearer? = none) ∧
    ∀ token, (Store.visitor session none).bearer? = some token →
      (Store.visitor session none).usableToken? = some token := by
  refine ⟨CookieStore.text?_visitor session none, fun site request access line => ?_,
    Visitor.bearer?_eq_head? _, Visitor.bearer?_eq_usableToken?_iff, Visitor.bearer?_of_hidesToken,
    fun token htoken => ?_⟩
  · exact ⟨_, Handler.sent_run .pageData site request access session line,
      bearer_of_pageData site request session⟩
  · have hshown : ¬ (Store.visitor session none).HidesToken := by
      intro hhides
      rw [Visitor.bearer?_of_hidesToken hhides] at htoken
      cases htoken
    rw [← Visitor.bearer?_of_not_hidesToken hshown, htoken]

/-- A session with a number in place of the first token. -/
def numberedTokenSession : CookieStore :=
  .ofList [(Key.accessToken, .ofNat 5), (Key.token, .str " b\t")]

/-- A value that is no text hides nothing, and a token is sent as it stands. -/
theorem numbered_token_hides_nothing :
    ¬ (Store.visitor numberedTokenSession none).HidesToken ∧
      (Store.visitor numberedTokenSession none).bearer? = some " b\t" := by
  have hshown : ¬ (Store.visitor numberedTokenSession none).HidesToken := by
    rintro ⟨blank, _, hfirst, -, -, -⟩
    have hnone : (Store.visitor numberedTokenSession none).text? Key.accessToken = none := rfl
    cases hnone.symm.trans hfirst
  obtain ⟨-, -, -, husable, -, -⟩ := token_sent_is_first_read numberedTokenSession
  exact ⟨hshown, (husable.2 hshown).trans (by decide +kernel)⟩

/-- A session of a manager with a blank text in place of the first token. -/
def blankTokenSession : CookieStore :=
  .ofList [(Key.accessToken, .str " "), (Key.role, .str "BanQuanLy"), (Key.token, .str "b")]

/-- The blank text hides the token behind it, and nothing is sent. -/
theorem blank_token_hides_another :
    (Store.visitor blankTokenSession none).usableToken? = some "b" ∧
      (Store.visitor blankTokenSession none).bearer? = none := by
  decide +kernel

end Web

end ResidencePortal
