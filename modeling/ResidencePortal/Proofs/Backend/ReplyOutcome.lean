import ResidencePortal.Backend.Call
import ResidencePortal.Proofs.Backend.ReplyText

/-!
# What becomes of a reply

A reply is a status, perhaps a content type, and a body. `Treated` says by rules what callers get from it:
a status that is none of success is a failure whatever the body says; a body that is meant as JSON is read,
and is a failure if it cannot be read or says that the request failed; any other body is wrapped. One rule
applies to each reply, and it gives what `normalize` computes.

**Results.**
* `content_eq_ok_iff`, `content_eq_error_iff`: which value a body stands for, and when for none.
* `normalize_eq_iff`: the rules and the program agree.
* `Treated.message_ne_empty`, `errorReason_of_unread`: the texts of failures.
* `normalize_by_status_and_body`: when each kind of failure comes, and what callers get otherwise.
-/

namespace ResidencePortal.Backend.Reply

open Text

/-! ## Bodies -/

/-- The status is one of success. -/
def Succeeded (r : Reply) : Prop := 200 ≤ r.status ∧ r.status ≤ 299

/-- The content type speaks of JSON. -/
def SaysJson (r : Reply) : Prop :=
  ∃ type, r.contentType = some type ∧ "application/json".toList <:+: type.toList

/-- The body is meant as JSON, and cannot be read as that. -/
def Unreadable (r : Reply) : Prop := r.SaysJson ∧ r.body ≠ "" ∧ Json.parse? r.body = none

/-- The body is meant as JSON, and is an object that says `success: false`. -/
def SaysRefused (r : Reply) : Prop :=
  r.SaysJson ∧ ∃ v, Json.parse? r.body = some v ∧ v.get? "success" = some (.bool false)

/-- The value that a body stands for: read, or wrapped, or null for an empty body. -/
inductive Says (r : Reply) : Json → Prop
  | read {v : Json} (json : r.SaysJson) (readable : Json.parse? r.body = some v) : Says r v
  | text (plain : ¬ r.SaysJson) (written : r.body ≠ "") :
    Says r (.object [("success", .bool true), ("data", .str r.body)])
  | nothing (empty : r.body = "") : Says r (.object [("success", .bool true), ("data", .null)])

variable {r : Reply} {v : Json}

theorem isSuccess_iff : r.isSuccess = true ↔ r.Succeeded := by
  rw [isSuccess, Succeeded, Bool.and_eq_true, decide_eq_true_eq, decide_eq_true_eq, Nat.lt_succ_iff]

theorem hasJsonBody_iff : r.hasJsonBody = true ↔ r.SaysJson ∧ r.body ≠ "" := by
  simp only [hasJsonBody, SaysJson, Bool.and_eq_true, Option.any_eq_true, contains_iff,
    Bool.not_eq_true', Bool.eq_false_iff, ne_eq, String.isEmpty_iff]

/-- An empty text is no document. -/
theorem body_ne_empty (h : Json.parse? r.body = some v) : r.body ≠ "" := by
  intro hempty
  have hnone : Json.parse? "" = none := rfl
  rw [hempty, hnone] at h
  cases h

/-- What wraps a body says that the request succeeded. -/
theorem get?_wrapping (data : Json) :
    (Json.object [("success", .bool true), ("data", data)]).get? "success" = some (.bool true) := by
  rw [Json.get?_object _ (by simp [Entries.Distinct])]
  rfl

/-- A body that says that the request failed was read and not wrapped. -/
theorem saysRefused_iff :
    r.SaysRefused ↔ ∃ v, r.Says v ∧ v.get? "success" = some (.bool false) := by
  constructor
  · rintro ⟨hjson, v, hread, hrefusal⟩
    exact ⟨v, .read hjson hread, hrefusal⟩
  · rintro ⟨v, hsaid, hrefusal⟩
    cases hsaid with
    | read json readable => exact ⟨json, v, readable, hrefusal⟩
    | text _ _ => simp [get?_wrapping] at hrefusal
    | nothing _ => simp [get?_wrapping] at hrefusal

/-- **The value of a body**: the rules of `Says` give what is computed. -/
theorem content_eq_ok_iff : r.content = .ok v ↔ r.Says v := by
  unfold content
  by_cases hjson : r.hasJsonBody = true
  · obtain ⟨hsaid, hwritten⟩ := hasJsonBody_iff.1 hjson
    rw [if_pos hjson]
    constructor
    · intro hcontent
      cases hread : Json.parse? r.body with
      | none => simp [hread] at hcontent
      | some w =>
        rw [hread] at hcontent
        cases hcontent
        exact .read hsaid hread
    · intro hbody
      cases hbody with
      | read _ readable => rw [readable]
      | text plain _ => exact absurd hsaid plain
      | nothing empty => exact absurd empty hwritten
  · rw [if_neg hjson, Except.ok.injEq, wrapped]
    constructor
    · rintro rfl
      by_cases hempty : r.body = ""
      · simpa [hempty] using Says.nothing hempty
      · simpa [hempty] using Says.text (fun hsaid => hjson (hasJsonBody_iff.2 ⟨hsaid, hempty⟩)) hempty
    · intro hbody
      cases hbody with
      | read json readable => exact absurd (hasJsonBody_iff.2 ⟨json, body_ne_empty readable⟩) hjson
      | text _ written => simp [written]
      | nothing empty => simp [empty]

theorem content_eq_error_iff {failure : Failure} :
    r.content = .error failure ↔ r.Unreadable ∧ failure = .invalidJson r.snippet := by
  rw [Unreadable, ← and_assoc, ← hasJsonBody_iff, content]
  by_cases hjson : r.hasJsonBody = true
  · rw [if_pos hjson]
    cases Json.parse? r.body with
    | none => simp [hjson, eq_comm]
    | some w => simp
  · simp [hjson]

/-- A body stands for one value at most. -/
theorem Says.unique {w : Json} (hv : r.Says v) (hw : r.Says w) : v = w := by
  have hcontent := (content_eq_ok_iff.2 hv).symm.trans (content_eq_ok_iff.2 hw)
  exact Except.ok.inj hcontent

theorem Says.not_unreadable (h : r.Says v) : ¬ r.Unreadable := by
  intro hunread
  have hcontent := (content_eq_ok_iff.2 h).symm.trans (content_eq_error_iff.2 ⟨hunread, rfl⟩)
  cases hcontent

/-! ## Rules -/

/-- What callers get from a reply. The status counts before the body. -/
inductive Treated (r : Reply) : Except Failure Json → Prop
  | failed (status : ¬ r.Succeeded) : Treated r (.error (.http r.status r.errorReason))
  | unreadable (status : r.Succeeded) (unread : r.Unreadable) :
    Treated r (.error (.invalidJson r.snippet))
  | refused {v : Json} (status : r.Succeeded) (said : r.Says v)
      (refusal : v.get? "success" = some (.bool false)) :
    Treated r (.error (.rejected r.status ((firstText? v ["message", "details"]).getD "Request failed")))
  | answered {v : Json} (status : r.Succeeded) (said : r.Says v)
      (accepted : v.get? "success" ≠ some (.bool false)) : Treated r (.ok v)

theorem treated_normalize (r : Reply) : r.Treated r.normalize := by
  unfold normalize
  by_cases hstatus : r.isSuccess = true
  · rw [if_pos hstatus]
    rw [isSuccess_iff] at hstatus
    cases hcontent : r.content with
    | error failure =>
      obtain ⟨hunread, rfl⟩ := content_eq_error_iff.1 hcontent
      exact .unreadable hstatus hunread
    | ok v =>
      have hsaid := content_eq_ok_iff.1 hcontent
      by_cases hrefusal : saysFailed v = true
      · simp only [hrefusal, if_true]
        exact .refused hstatus hsaid (saysFailed_iff.1 hrefusal)
      · simp only [hrefusal]
        exact .answered hstatus hsaid (mt saysFailed_iff.2 hrefusal)
  · rw [if_neg hstatus]
    exact .failed (mt isSuccess_iff.2 hstatus)

/-- **Rules and program.** Callers get what the rules say, and nothing else. -/
theorem normalize_eq_iff {x : Except Failure Json} : r.normalize = x ↔ r.Treated x := by
  constructor
  · rintro rfl
    exact treated_normalize r
  · intro h
    cases h with
    | failed status => rw [normalize, if_neg (mt isSuccess_iff.1 status)]
    | unreadable status unread =>
      rw [normalize, if_pos (isSuccess_iff.2 status), content_eq_error_iff.2 ⟨unread, rfl⟩]
    | refused status said refusal =>
      simp only [normalize, isSuccess_iff.2 status, content_eq_ok_iff.2 said,
        saysFailed_iff.2 refusal, if_true]
    | answered status said accepted =>
      simp only [normalize, isSuccess_iff.2 status, content_eq_ok_iff.2 said,
        mt saysFailed_iff.1 accepted, Bool.false_eq_true, if_true, if_false]

/-! ## Texts of failures -/

/-- The part of a body that is shown: its first characters, at most a hundred. -/
theorem toList_snippet (r : Reply) : r.snippet.toList = r.body.toList.take 100 := by
  rw [snippet, firstChars, String.toList_ofList, snippetLength]

theorem snippet_eq_empty_iff : r.snippet = "" ↔ r.body = "" := by
  rw [← String.toList_eq_nil_iff, toList_snippet, List.take_eq_nil_iff, String.toList_eq_nil_iff]
  simp

theorem firstText?_ne_empty {keys : List String} {text : String} (h : firstText? v keys = some text) :
    text ≠ "" := by
  obtain ⟨key, -, hkey⟩ := List.exists_of_findSome?_eq_some h
  simpa using (Option.filter_eq_some_iff.1 hkey).2

/-- A text that is taken from a value, or else given, is not empty. -/
theorem getD_firstText?_ne_empty {keys : List String} {given : String} (h : given ≠ "") :
    (firstText? v keys).getD given ≠ "" := by
  cases hfirst : firstText? v keys with
  | none => exact h
  | some text => exact firstText?_ne_empty hfirst

theorem append_ne_empty {front : String} (h : front ≠ "") (back : String) : front ++ back ≠ "" := by
  simp [h]

theorem errorReason_ne_empty (r : Reply) : r.errorReason ≠ "" := by
  unfold errorReason
  split
  · exact getD_firstText?_ne_empty (append_ne_empty (by decide) _)
  · simp only [String.append_assoc]
    exact append_ne_empty (by decide) _

/-- Every failure has something to say. -/
theorem Treated.message_ne_empty {failure : Failure} (h : r.Treated (.error failure)) :
    failure.message ≠ "" := by
  cases h with
  | failed _ => exact errorReason_ne_empty r
  | unreadable _ _ => exact append_ne_empty (by decide) _
  | refused _ _ _ => exact getD_firstText?_ne_empty (by decide)

/-- A reply of failure whose body was not read is told by its status and the beginning of its body. -/
theorem errorReason_of_unread (h : r.SaysJson → Json.parse? r.body = none) :
    r.errorReason = "Server error (" ++ natText r.status ++ "): " ++
      if r.body = "" then "Unknown error" else String.ofList (r.body.toList.take 100) := by
  have hunread : (if r.hasJsonBody then Json.parse? r.body else none) = none := by
    split
    · rename_i hjson
      exact h (hasJsonBody_iff.1 hjson).1
    · rfl
  have hsnippet : r.snippet = String.ofList (r.body.toList.take 100) := rfl
  rw [errorReason, hunread]
  simp only [String.isEmpty_iff, snippet_eq_empty_iff]
  rw [← hsnippet]

/-! ## Kinds of outcomes -/

/-- **What becomes of a reply.** Whatever endpoint was called, callers get what `normalize` gives.

* The failure names a status exactly if that is the status of the reply and none of success.
* The answer cannot be read exactly if the status is one of success and the body is meant as JSON, is not
  empty, and is no JSON.
* The request was refused, under the status of the reply, exactly if that is one of success and the body is
  meant as JSON and is an object that says `success: false`.
* In every other case callers get the value that the body stands for, which is none that says so.

A reply is never taken for a missing one, every failure has a text, and where the text shows a body that
was not read, it shows its first hundred characters, or all of them if there are fewer. -/
theorem normalize_by_status_and_body (r : Reply) :
    (∀ (c : Client) (endpoint : String) (method : Method) (payload : Option Json),
      (c.call endpoint method payload).receive (.ok r) = r.normalize) ∧
    (∀ status, (∃ reason, r.normalize = .error (.http status reason)) ↔
      status = r.status ∧ ¬ r.Succeeded) ∧
    ((∃ detail, r.normalize = .error (.invalidJson detail)) ↔ r.Succeeded ∧ r.Unreadable) ∧
    (∀ status, (∃ reason, r.normalize = .error (.rejected status reason)) ↔
      status = r.status ∧ r.Succeeded ∧ r.SaysRefused) ∧
    ((∃ v, r.normalize = .ok v) ↔ r.Succeeded ∧ ¬ r.Unreadable ∧ ¬ r.SaysRefused) ∧
    (∀ v, r.normalize = .ok v → r.Says v ∧ v.get? "success" ≠ some (.bool false)) ∧
    (∀ detail, r.normalize ≠ .error (.transport detail)) ∧
    (∀ failure, r.normalize = .error failure → failure.message ≠ "") ∧
    (∀ detail, r.normalize = .error (.invalidJson detail) →
      detail ≠ "" ∧ detail.toList = r.body.toList.take 100) ∧
    (∀ status reason, r.normalize = .error (.http status reason) →
      (r.SaysJson → Json.parse? r.body = none) →
      reason = "Server error (" ++ natText status ++ "): " ++
        if r.body = "" then "Unknown error" else String.ofList (r.body.toList.take 100)) := by
  simp only [normalize_eq_iff, ne_eq]
  refine ⟨fun c endpoint method payload => rfl, fun status => ⟨?_, ?_⟩, ⟨?_, ?_⟩,
    fun status => ⟨?_, ?_⟩, ⟨?_, ?_⟩, ?_, ?_, fun failure h => h.message_ne_empty, ?_, ?_⟩
  · rintro ⟨reason, h⟩
    cases h with
    | failed status => exact ⟨rfl, status⟩
  · rintro ⟨rfl, hstatus⟩
    exact ⟨_, .failed hstatus⟩
  · rintro ⟨detail, h⟩
    cases h with
    | unreadable status unread => exact ⟨status, unread⟩
  · rintro ⟨hstatus, hunread⟩
    exact ⟨_, .unreadable hstatus hunread⟩
  · rintro ⟨reason, h⟩
    cases h with
    | refused status said refusal => exact ⟨rfl, status, saysRefused_iff.2 ⟨_, said, refusal⟩⟩
  · rintro ⟨rfl, hstatus, hrefused⟩
    obtain ⟨v, hsaid, hrefusal⟩ := saysRefused_iff.1 hrefused
    exact ⟨_, .refused hstatus hsaid hrefusal⟩
  · rintro ⟨v, h⟩
    cases h with
    | answered status said accepted =>
      refine ⟨status, said.not_unreadable, fun hrefused => ?_⟩
      obtain ⟨w, hw, hrefusal⟩ := saysRefused_iff.1 hrefused
      exact accepted (said.unique hw ▸ hrefusal)
  · rintro ⟨hstatus, hread, haccepted⟩
    obtain ⟨x, hx⟩ : ∃ x, r.Treated x := ⟨_, treated_normalize r⟩
    cases hx with
    | failed status => exact absurd hstatus status
    | unreadable _ unread => exact absurd unread hread
    | refused _ said refusal => exact absurd (saysRefused_iff.2 ⟨_, said, refusal⟩) haccepted
    | answered status said accepted => exact ⟨_, .answered status said accepted⟩
  · intro v h
    cases h with
    | answered _ said accepted => exact ⟨said, accepted⟩
  · intro detail h
    cases h
  · intro detail h
    cases h with
    | unreadable _ unread =>
      exact ⟨mt snippet_eq_empty_iff.1 unread.2.1, toList_snippet r⟩
  · intro status reason h hunread
    cases h with
    | failed _ => exact errorReason_of_unread hunread

/-- A page of a gateway that failed, longer than what is shown of a body. -/
def gatewayPage : Reply := ⟨502, some "text/html", String.ofList (List.replicate 150 'x')⟩

/-- Of the page of a gateway callers see the status and a hundred characters. -/
theorem normalize_gatewayPage :
    ¬ gatewayPage.Succeeded ∧ ¬ gatewayPage.SaysJson ∧
      gatewayPage.normalize = .error
        (.http 502 ("Server error (502): " ++ String.ofList (List.replicate 100 'x'))) := by
  have hstatus : ¬ gatewayPage.Succeeded := by simp [Succeeded, gatewayPage]
  have hplain : ¬ gatewayPage.SaysJson := by
    rintro ⟨type, htype, hinfix⟩
    cases htype
    exact absurd (containsChars_iff.2 hinfix) (by decide)
  obtain ⟨-, hhttp, -, -, -, -, -, -, -, hreason⟩ := normalize_by_status_and_body gatewayPage
  obtain ⟨reason, hfailed⟩ := (hhttp 502).2 ⟨rfl, hstatus⟩
  have htext : reason = "Server error (502): " ++ String.ofList (List.replicate 100 'x') := by
    have hwritten : gatewayPage.body ≠ "" := by simp [gatewayPage]
    have hstart : "Server error (" ++ natText 502 ++ "): " = "Server error (502): " := by decide +kernel
    rw [hreason 502 reason hfailed fun hjson => absurd hjson hplain, if_neg hwritten, hstart, gatewayPage,
      String.toList_ofList, List.take_replicate, Nat.min_eq_left (by decide)]
  exact ⟨hstatus, hplain, htext ▸ hfailed⟩

end ResidencePortal.Backend.Reply
