import ResidencePortal.Backend.Reply
import ResidencePortal.Proofs.Json.DepthLimit

/-!
# Values sent as replies

A value that is sent as the JSON body of a reply of success reaches the callers as it was sent, unless
it says that the request failed or nests too deep to be read.

**Results.**
* `Reply.content_ofJson`: the value in the body is the value that was sent.
* `Reply.normalize_ofJson`: what callers get for a value that was sent.
* `Reply.normalize_ofJson_by_depth`: the same for values of every depth.
-/

namespace ResidencePortal.Backend.Reply

open Text Json

variable {status : Nat} {v : Json}

theorem hasJsonBody_ofJson (h : Canonical v) : (ofJson status v).hasJsonBody = true := by
  have hbody : v.compact.isEmpty = false := by
    obtain ⟨c, cs, hcs, -⟩ := head_writeChars h
    rw [compact, hcs, Bool.eq_false_iff, ne_eq, String.isEmpty_iff, ← String.toList_eq_nil_iff,
      String.toList_ofList]
    exact List.cons_ne_nil c cs
  have htype : contains "application/json" "application/json" = true := by decide
  simp only [hasJsonBody, ofJson, Option.any_some, htype, hbody]
  rfl

theorem content_ofJson (h : Canonical v) (hdepth : depth v ≤ maxDepth) :
    (ofJson status v).content = .ok v := by
  have hparse : parse? (ofJson status v).body = some v := parse?_compact h hdepth
  rw [content, hasJsonBody_ofJson h, if_pos rfl, hparse]

/-- **Sent values.** Callers get the value that was sent, or that the request was refused. -/
theorem normalize_ofJson (h : Canonical v) (hdepth : depth v ≤ maxDepth) (hlow : 200 ≤ status)
    (hhigh : status < 300) :
    (ofJson status v).normalize =
      if saysFailed v then
        .error (.rejected status ((firstText? v ["message", "details"]).getD "Request failed"))
      else .ok v := by
  have hsuccess : (ofJson status v).isSuccess = true := by
    simp [isSuccess, ofJson, hlow, hhigh]
  rw [normalize, hsuccess, if_pos rfl, content_ofJson h hdepth]
  rfl

theorem saysFailed_iff : saysFailed v = true ↔ v.get? "success" = some (.bool false) := by
  unfold saysFailed
  split
  · rename_i h
    simp [h]
  · rename_i h
    simpa using h

/-- A body that nests too deep cannot be read. -/
theorem content_ofJson_too_deep (h : Canonical v) (hdepth : maxDepth < depth v) :
    (ofJson status v).content = .error (.invalidJson (firstChars snippetLength v.compact)) := by
  have hparse : parse? (ofJson status v).body = none := by
    rw [ofJson, parse?_compact_eq h, if_neg (Nat.not_le_of_lt hdepth)]
  rw [content, hasJsonBody_ofJson h, if_pos rfl, hparse]
  rfl

/-- **Sent values of every depth.** A value that nests at most 127 containers reaches the callers as it
was sent, unless it is an object that says `success: false`: then the request was refused, under the same
status. Of a value that nests more containers callers get the first 100 characters of its text, as what
could not be read. -/
theorem normalize_ofJson_by_depth (status : Nat) (v : Json) (h : Canonical v) (hlow : 200 ≤ status)
    (hhigh : status < 300) :
    (depth v ≤ 127 → v.get? "success" ≠ some (.bool false) → (ofJson status v).normalize = .ok v) ∧
    (depth v ≤ 127 → v.get? "success" = some (.bool false) →
      (ofJson status v).normalize =
        .error (.rejected status ((firstText? v ["message", "details"]).getD "Request failed"))) ∧
    (128 ≤ depth v →
      (ofJson status v).normalize = .error (.invalidJson (firstChars 100 v.compact))) := by
  refine ⟨fun hdepth hsaid => ?_, fun hdepth hsaid => ?_, fun hdepth => ?_⟩
  · rw [normalize_ofJson h hdepth hlow hhigh, if_neg (mt saysFailed_iff.1 hsaid)]
  · rw [normalize_ofJson h hdepth hlow hhigh, if_pos (saysFailed_iff.2 hsaid)]
  · have hsuccess : (ofJson status v).isSuccess = true := by
      simp [isSuccess, ofJson, hlow, hhigh]
    rw [normalize, hsuccess, if_pos rfl, content_ofJson_too_deep h hdepth]
    rfl

/-- A zero inside so many lists. -/
def nestedZero : Nat → Json
  | 0 => .ofNat 0
  | n + 1 => .arr [nestedZero n]

theorem canonical_nestedZero (n : Nat) : Canonical (nestedZero n) := by
  induction n with
  | zero => exact .int (by decide) (by decide)
  | succ n ih => exact .arr (by simpa using ih)

theorem depth_nestedZero (n : Nat) : depth (nestedZero n) = n := by
  induction n with
  | zero => rfl
  | succ n ih => simp [nestedZero, depth, depthItems, ih]

theorem writeChars_nestedZero (n : Nat) :
    ∃ tail, writeChars (nestedZero n) = List.replicate n '[' ++ tail := by
  induction n with
  | zero => exact ⟨_, rfl⟩
  | succ n ih =>
    obtain ⟨tail, htail⟩ := ih
    refine ⟨tail ++ [']'], ?_⟩
    rw [nestedZero, writeChars, htail, List.replicate_succ, List.cons_append, List.append_assoc]
    rfl

/-- A reply that says that the request failed, and nothing more. -/
def plainRefusal : Json := .obj [("success", .bool false)]

theorem canonical_plainRefusal : Canonical plainRefusal := by
  refine .obj (List.pairwise_singleton _ _) fun m hm => ?_
  rw [List.mem_singleton.1 hm]
  exact .bool false

/-- A zero inside 127 lists is read, inside 128 lists it is not, and a refusal is told as such. -/
theorem normalize_nestedZero_plainRefusal :
    (ofJson 200 (nestedZero 127)).normalize = .ok (nestedZero 127) ∧
    (ofJson 200 (nestedZero 128)).normalize =
      .error (.invalidJson (String.ofList (List.replicate 100 '['))) ∧
    (ofJson 201 plainRefusal).normalize = .error (.rejected 201 "Request failed") := by
  have hsnippet : firstChars 100 (nestedZero 128).compact = String.ofList (List.replicate 100 '[') := by
    obtain ⟨tail, htail⟩ := writeChars_nestedZero 128
    rw [firstChars, compact, String.toList_ofList, htail, List.take_append_of_le_length (by simp),
      List.take_replicate]
    rfl
  have hread := (normalize_ofJson_by_depth 200 (nestedZero 127) (canonical_nestedZero 127)
    (by decide) (by decide)).1
  have hunread := (normalize_ofJson_by_depth 200 (nestedZero 128) (canonical_nestedZero 128)
    (by decide) (by decide)).2.2
  have hrefused := (normalize_ofJson_by_depth 201 plainRefusal canonical_plainRefusal
    (by decide) (by decide)).2.1
  rw [hsnippet] at hunread
  refine ⟨hread ?_ ?_, hunread ?_, hrefused ?_ ?_⟩
  · exact Nat.le_of_eq (depth_nestedZero 127)
  · intro hsaid
    cases hsaid
  · exact Nat.le_of_eq (depth_nestedZero 128).symm
  · decide
  · rfl

end ResidencePortal.Backend.Reply
