import ResidencePortal.Text.Blank
import ResidencePortal.Text.Case
import ResidencePortal.Text.Chars

/-!
# Roles

What a visitor is, read from free text. Three roles are known; any other text is kept as a token in
upper case, so that a page can still be opened to it.

* `Role.normalize?` ignores case and blanks at the ends. Only the exact word makes an administrator;
  a phrase for management counts before one for the accountant, wherever it stands.
-/

namespace ResidencePortal

open Text

/-- What a visitor is to the portal (`CanonicalRole`). -/
inductive Role where
  | admin
  | management
  | accountant
  | other (token : String)
deriving Repr, DecidableEq

namespace Role

/-- The name under which a role is shown in allow lists and reports (`CanonicalRole.as_str`). -/
def name : Role → String
  | admin => "ADMIN"
  | management => "MANAGEMENT"
  | accountant => "ACCOUNTANT"
  | other token => token

/-- The code by which the backend knows the role (`CanonicalRole.code`). -/
def code? : Role → Option String
  | admin => some "Admin"
  | management => some "BanQuanLy"
  | accountant => some "KeToan"
  | other _ => none

/-- The name shown to visitors (`CanonicalRole.display_name`). -/
def displayName : Role → String
  | admin => "Quản trị viên"
  | management => "Ban quản lý"
  | accountant => "Kế toán"
  | other token => token

/-- The role is one of the three known ones (`CanonicalRole.is_recognized`). -/
def isRecognized : Role → Bool
  | other _ => false
  | _ => true

/-- Phrases that make a role management wherever they stand (`MANAGEMENT_PHRASES`). -/
def managementPhrases : List String := ["quản lý", "quan ly"]

/-- Words that make a role management on their own (`MANAGEMENT_CODES`). -/
def managementWords : List String := ["banquanly", "management"]

/-- Phrases that make a role the accountant wherever they stand (`ACCOUNTANT_PHRASES`). -/
def accountantPhrases : List String := ["kế toán", "ke toan"]

/-- Words that make a role the accountant on their own (`ACCOUNTANT_CODES`). -/
def accountantWords : List String := ["ketoan", "accountant"]

/-- A lower-case text holds one of the phrases or is one of the words. -/
def matchesAny (lowered : String) (phrases words : List String) : Bool :=
  phrases.any (contains lowered) || words.contains lowered

/-- The role of a text that is trimmed and not empty (`normalize`). -/
def classify (trimmed : String) : Role :=
  let lowered := lower trimmed
  if lowered = "admin" then admin
  else if matchesAny lowered managementPhrases managementWords then management
  else if matchesAny lowered accountantPhrases accountantWords then accountant
  else other (upper trimmed)

/-- The role that a raw text denotes; a blank text denotes none (`normalize`). -/
def normalize? (raw : String) : Option Role := (nonBlank raw).map classify

/-- The place of a role in allow lists: known roles first. -/
def rank : Role → Nat
  | admin => 0
  | management => 1
  | accountant => 2
  | other _ => 3

/-- The order of allow lists: by rank, tokens among themselves as texts. -/
def Before (a b : Role) : Prop := a.rank < b.rank ∨ (a.rank = b.rank ∧ a.name < b.name)

instance (a b : Role) : Decidable (a.Before b) := by unfold Before; infer_instance

theorem Before.trans {a b c : Role} (h : a.Before b) (h' : b.Before c) : a.Before c := by
  rcases h with h | ⟨h, hn⟩ <;> rcases h' with h' | ⟨h', hn'⟩
  · exact Or.inl (Nat.lt_trans h h')
  · exact Or.inl (h' ▸ h)
  · exact Or.inl (h ▸ h')
  · exact Or.inr ⟨h.trans h', String.lt_trans hn hn'⟩

theorem before_of_not_before {a b : Role} (h : ¬ b.Before a) (hne : b ≠ a) : a.Before b := by
  simp only [Before, not_or, not_and] at h
  rcases Nat.lt_or_eq_of_le (Nat.not_lt.1 h.1) with hlt | heq
  · exact Or.inl hlt
  · refine Or.inr ⟨heq, ?_⟩
    have hname := String.not_lt.1 (h.2 heq.symm)
    refine Std.lt_of_le_of_ne hname fun hn => hne ?_
    cases a <;> cases b <;> simp_all [rank, name]

end Role

end ResidencePortal
