import ResidencePortal.Html.View
import ResidencePortal.Proofs.Entries

/-!
# The layout can always be written

A template gives no text if one of its slots names a value that is missing. The layout of the pages asks
for a few names and for the members of menu items; a context that knows the visitor has them all, for
every menu and whatever the texts are. And what stands in the layout is found in its text as it is.

**Results.**
* `Template.isSome_eval_text`, …: when a template can be written, part by part.
* `Template.eval_text_eq_some`, …: what the parts of a template wrote.
* `Template.eval_tail`: the text of a template ends with the text of what is left after some parts.
* `isSome_eval_layout`: the layout can be written around any content that can be written.
* `eval_layout`: the content is found in the text of the layout.
* `isSome_eval_dashboardContent`, `isSome_eval_pageContent`, `isSome_eval_loginPage`: the content of the
  dashboard can be written whatever regions are visible, that of a page if its identifier is known, and the
  login page with and without an error.
-/

namespace ResidencePortal.Html

/-! ## Looking up values -/

namespace Context

/-- A name that stands in front is found. -/
theorem find?_cons_self {name key : String} {v w : Json} {ctx : Context} (h : v.get? key = some w) :
    find? ((name, v) :: ctx) [name, key] = some w := by
  simp [find?, member?, h]

/-- A value of another name in front makes no difference. -/
theorem find?_cons_of_ne {name other : String} (h : other ≠ name) (v : Json) (ctx : Context)
    (keys : List String) : find? ((other, v) :: ctx) (name :: keys) = find? ctx (name :: keys) := by
  simp [find?, h]

end Context

/-! ## Templates that can be written -/

@[simp] theorem Slot.isSome_fill_value (ctx : Context) (path : List String) :
    ((value path).fill ctx).isSome = (ctx.find? path).isSome := by
  simp [fill]

@[simp] theorem Slot.isSome_fill_valueOr (ctx : Context) (path : List String) (fallback : String) :
    ((valueOr path fallback).fill ctx).isSome = true := by
  simp only [fill]
  split <;> rfl

namespace Template

variable {ctx : Context}

@[simp] theorem isSome_eval_done : (done.eval ctx).isSome = true := rfl

@[simp] theorem isSome_eval_text (s : String) (rest : Template) :
    ((text s rest).eval ctx).isSome = (rest.eval ctx).isSome := by
  cases h : rest.eval ctx <;> simp [eval, h]

@[simp] theorem isSome_eval_slot (s : Slot) (rest : Template) :
    ((slot s rest).eval ctx).isSome = ((s.fill ctx).isSome && (rest.eval ctx).isSome) := by
  cases hs : s.fill ctx <;> cases h : rest.eval ctx <;> simp [eval, hs, h]

@[simp] theorem isSome_eval_choose_holds (path : List String) (yes no rest : Template) :
    ((choose (.holds path) yes no rest).eval ctx).isSome =
      ((if (ctx.find? path).any isTruthy then (yes.eval ctx).isSome else (no.eval ctx).isSome) &&
        (rest.eval ctx).isSome) := by
  cases htest : (ctx.find? path).any isTruthy <;> cases hyes : yes.eval ctx <;>
    cases hno : no.eval ctx <;> cases h : rest.eval ctx <;>
    simp [eval, Test.check, htest, hyes, hno, h]

@[simp] theorem isSome_eval_append (t u : Template) :
    ((t.append u).eval ctx).isSome = ((t.eval ctx).isSome && (u.eval ctx).isSome) := by
  rw [eval_append]
  cases t.eval ctx <;> simp

theorem isSome_joinAll (texts : List (Option String)) :
    (joinAll texts).isSome = texts.all Option.isSome := by
  induction texts with
  | nil => rfl
  | cons s rest ih =>
    rw [List.all_cons, ← ih]
    cases s <;> cases h : joinAll rest <;> simp [joinAll, h]

theorem isSome_eval_forEach {name : String} {list : List String} {body rest : Template}
    {items : List Json} (hitems : (ctx.find? list).bind itemsOf? = some items)
    (hbody : ∀ item ∈ items, (body.eval ((name, item) :: ctx)).isSome = true) :
    ((forEach name list body rest).eval ctx).isSome = (rest.eval ctx).isSome := by
  obtain ⟨v, hv, hitems⟩ := Option.bind_eq_some_iff.1 hitems
  have hjoin : (joinAll (items.map fun item => body.eval ((name, item) :: ctx))).isSome = true := by
    rw [isSome_joinAll, List.all_map]
    exact List.all_eq_true.2 hbody
  obtain ⟨text, htext⟩ := Option.isSome_iff_exists.1 hjoin
  cases h : rest.eval ctx <;> simp [eval, hv, hitems, htext, h]

/-! ## What a template wrote -/

section Parts

variable {a : String}

theorem eval_text_eq_some {s : String} {rest : Template} (h : (text s rest).eval ctx = some a) :
    ∃ more, rest.eval ctx = some more ∧ a = s ++ more := by
  obtain ⟨more, hmore, h⟩ := Option.bind_eq_some_iff.1 h
  cases h
  exact ⟨more, hmore, rfl⟩

theorem eval_slot_eq_some {s : Slot} {rest : Template} (h : (slot s rest).eval ctx = some a) :
    ∃ here more, s.fill ctx = some here ∧ rest.eval ctx = some more ∧ a = here ++ more := by
  obtain ⟨here, hhere, h⟩ := Option.bind_eq_some_iff.1 h
  obtain ⟨more, hmore, h⟩ := Option.bind_eq_some_iff.1 h
  cases h
  exact ⟨here, more, hhere, hmore, rfl⟩

theorem eval_choose_eq_some {test : Test} {yes no rest : Template}
    (h : (choose test yes no rest).eval ctx = some a) :
    ∃ chosen here more, test.check ctx = some chosen ∧
      (if chosen then yes else no).eval ctx = some here ∧ rest.eval ctx = some more ∧
      a = here ++ more := by
  obtain ⟨chosen, hchosen, h⟩ := Option.bind_eq_some_iff.1 h
  cases chosen <;>
  · obtain ⟨here, hhere, h⟩ := Option.bind_eq_some_iff.1 h
    obtain ⟨more, hmore, h⟩ := Option.bind_eq_some_iff.1 h
    cases h
    exact ⟨_, here, more, hchosen, hhere, hmore, rfl⟩

theorem eval_forEach_eq_some {name : String} {list : List String} {body rest : Template}
    (h : (forEach name list body rest).eval ctx = some a) :
    ∃ items here more, (ctx.find? list).bind itemsOf? = some items ∧
      joinAll (items.map fun item => body.eval ((name, item) :: ctx)) = some here ∧
      rest.eval ctx = some more ∧ a = here ++ more := by
  obtain ⟨v, hv, h⟩ := Option.bind_eq_some_iff.1 h
  obtain ⟨items, hitems, h⟩ := Option.bind_eq_some_iff.1 h
  obtain ⟨here, hhere, h⟩ := Option.bind_eq_some_iff.1 h
  obtain ⟨more, hmore, h⟩ := Option.bind_eq_some_iff.1 h
  cases h
  exact ⟨items, here, more, Option.bind_eq_some_iff.2 ⟨v, hv, hitems⟩, hhere, hmore, rfl⟩

end Parts

/-! ## What is left of a template -/

/-- What is left of a template after its first part. -/
def rest? : Template → Option Template
  | done => none
  | text _ rest => some rest
  | slot _ rest => some rest
  | choose _ _ _ rest => some rest
  | forEach _ _ _ rest => some rest

/-- The first part of a template writes in front of the rest. -/
theorem eval_rest? {t u : Template} (h : t.rest? = some u) {body : String}
    (ht : t.eval ctx = some body) :
    ∃ here more, u.eval ctx = some more ∧ body = here ++ more := by
  cases t with
  | done => cases h
  | text s rest =>
    cases h
    obtain ⟨more, hmore, hbody⟩ := eval_text_eq_some ht
    exact ⟨s, more, hmore, hbody⟩
  | slot s rest =>
    cases h
    obtain ⟨here, more, -, hmore, hbody⟩ := eval_slot_eq_some ht
    exact ⟨here, more, hmore, hbody⟩
  | choose test yes no rest =>
    cases h
    obtain ⟨-, here, more, -, -, hmore, hbody⟩ := eval_choose_eq_some ht
    exact ⟨here, more, hmore, hbody⟩
  | forEach name list body rest =>
    cases h
    obtain ⟨-, here, more, -, -, hmore, hbody⟩ := eval_forEach_eq_some ht
    exact ⟨here, more, hmore, hbody⟩

/-- The second template is what is left of the first after some parts. -/
inductive Tail : Template → Template → Prop where
  | refl (t : Template) : Tail t t
  | step {t u v : Template} (h : t.rest? = some u) (hrest : Tail u v) : Tail t v

/-- The text of a template ends with the text of what is left of it. -/
theorem eval_tail {t u : Template} (h : Tail t u) {body : String} (ht : t.eval ctx = some body) :
    ∃ front back, u.eval ctx = some back ∧ body = front ++ back := by
  induction h generalizing body with
  | refl t => exact ⟨"", body, ht, by rw [String.empty_append]⟩
  | step hstep _ ih =>
    obtain ⟨here, more, hmore, rfl⟩ := eval_rest? hstep ht
    obtain ⟨front, back, hback, rfl⟩ := ih hmore
    exact ⟨here ++ front, back, hback, by rw [String.append_assoc]⟩

end Template

/-! ## Menus -/

theorem get?_toJsonWith (e : MenuEntry) (children : Json) (key : String) :
    (e.toJsonWith children).get? key = Entries.find? key
      [("title", .str e.title), ("path", .str e.path), ("children", children),
        ("icon", Json.ofText? e.icon), ("order", (e.order.map Json.ofNat).getD .null),
        ("region", Json.ofText? (e.region.map Region.id))] :=
  Json.get?_object key (by simp [Entries.Distinct])

/-- Every menu item has a title and a path to show. -/
theorem get?_toJson (item : MenuItem) :
    item.toJson.get? "title" = some (.str item.entry.title) ∧
      item.toJson.get? "path" = some (.str item.entry.path) := by
  cases item with
  | leaf e => simp [MenuItem.toJson, MenuItem.entry, get?_toJsonWith, Entries.find?]
  | node e children => simp [MenuItem.toJson, MenuItem.entry, get?_toJsonWith, Entries.find?]

/-- The items below a menu item, or nothing. -/
def childrenOf : MenuItem → Json
  | .leaf _ => .null
  | .node _ children => .arr (MenuItem.listToJson children)

theorem get?_children (item : MenuItem) : item.toJson.get? "children" = some (childrenOf item) := by
  cases item <;> simp [MenuItem.toJson, childrenOf, get?_toJsonWith, Entries.find?]

theorem mem_listToJson {items : List MenuItem} {v : Json} (h : v ∈ MenuItem.listToJson items) :
    ∃ item ∈ items, v = item.toJson := by
  induction items with
  | nil => cases h
  | cons item rest ih =>
    rcases List.mem_cons.1 h with rfl | hrest
    · exact ⟨item, List.mem_cons_self, rfl⟩
    · obtain ⟨other, hother, rfl⟩ := ih hrest
      exact ⟨other, List.mem_cons_of_mem _ hother, rfl⟩

theorem isSome_eval_regionMark (ctx : Context) (item : String) (rest : Template) :
    ((regionMark item rest).eval ctx).isSome = (rest.eval ctx).isSome := by
  cases h : ctx.find? [item, "region"] <;>
    simp [regionMark, Template.ofParts, Template.put, Slot.fill, h]

theorem isSome_eval_menuLink (ctx : Context) (name indent : String) (item : MenuItem) :
    ((menuLink name indent).eval ((name, item.toJson) :: ctx)).isSome = true := by
  obtain ⟨htitle, hpath⟩ := get?_toJson item
  simp [menuLink, Template.ofParts, Template.lines, Template.put, Slot.fill, isSome_eval_regionMark,
    Context.find?_cons_self htitle, Context.find?_cons_self hpath]

/-- A group is written whatever its items are. -/
theorem isSome_eval_menuGroup (ctx : Context) (e : MenuEntry) (children : List MenuItem) :
    (menuGroup.eval (("menu", (MenuItem.node e children).toJson) :: ctx)).isSome = true := by
  obtain ⟨htitle, -⟩ := get?_toJson (.node e children)
  have hitems : (Context.find? (("menu", (MenuItem.node e children).toJson) :: ctx)
      ["menu", "children"]).bind itemsOf? = some (MenuItem.listToJson children) := by
    rw [Context.find?_cons_self (get?_children _)]
    rfl
  have hlinks : ∀ v ∈ MenuItem.listToJson children,
      ((menuLink "child" "                ").eval
        (("child", v) :: ("menu", (MenuItem.node e children).toJson) :: ctx)).isSome = true := by
    intro v hv
    obtain ⟨item, -, rfl⟩ := mem_listToJson hv
    exact isSome_eval_menuLink _ _ _ item
  simp [menuGroup, Template.ofParts, Template.lines, Template.put, Slot.fill,
    Context.find?_cons_self htitle, Template.isSome_eval_forEach hitems hlinks]

/-- An item of the menu is written: as a group if it has items below it, and as a link if not. -/
theorem isSome_eval_menuEntry (ctx : Context) (item : MenuItem) (rest : Template) :
    ((Template.choose (.holds ["menu", "children"]) menuGroup (menuLink "menu" "        ") rest).eval
      (("menu", item.toJson) :: ctx)).isSome = (rest.eval (("menu", item.toJson) :: ctx)).isSome := by
  rw [Template.isSome_eval_choose_holds, Context.find?_cons_self (get?_children item),
    isSome_eval_menuLink]
  cases item with
  | leaf e => simp [childrenOf, isTruthy]
  | node e children => simp [isSome_eval_menuGroup]

/-! ## The layout -/

/-- What the layout asks of a context. -/
structure Context.ForLayout (ctx : Context) : Prop where
  texts : ∀ name ∈ ["app_name", "home_path", "display_name", "role_display_name", "app_version",
    "current_year"], (ctx.find? [name]).isSome = true
  menu : ∃ items : List MenuItem, ctx.find? ["menus"] = some (.arr (MenuItem.listToJson items))

theorem Context.ForLayout.cons {ctx : Context} (h : ctx.ForLayout) {name : String}
    (hname : name ∉ ["app_name", "home_path", "display_name", "role_display_name", "app_version",
      "current_year", "menus"]) (v : Json) : Context.ForLayout ((name, v) :: ctx) where
  texts other hother := by
    rw [find?_cons_of_ne (by rintro rfl; exact hname (List.mem_append_left ["menus"] hother))]
    exact h.texts other hother
  menu := by
    rw [find?_cons_of_ne (by rintro rfl; simp at hname)]
    exact h.menu

section AccessContext

variable (year : Nat) (registry : Registry) (access : Access) (user : Option User)
  (pageTitle homePath : String)

theorem find?_visible_regions_accessContext :
    (accessContext year registry access user pageTitle homePath).find? ["visible_regions"] =
      some (.arr ((Region.visible access.hidden).map fun r => .str r.id)) := by
  simp [accessContext, Context.find?, member?]

theorem find?_menus_accessContext :
    (accessContext year registry access user pageTitle homePath).find? ["menus"] =
      some (.arr (MenuItem.listToJson
        (Menu.visible access.hidden (registry.menuFor access.role)))) := by
  simp [accessContext, Context.find?, member?]

/-- What a page knows about a visitor is enough for the layout. -/
theorem forLayout_accessContext :
    (accessContext year registry access user pageTitle homePath).ForLayout where
  texts := by simp [accessContext, baseContext, Context.find?, member?]
  menu := ⟨_, find?_menus_accessContext year registry access user pageTitle homePath⟩

end AccessContext

/-- **The layout can be written** around any content that can be written. -/
theorem isSome_eval_layout {ctx : Context} (h : ctx.ForLayout) {content : Template}
    (hcontent : (content.eval ctx).isSome = true) : ((layout content).eval ctx).isSome = true := by
  obtain ⟨items, hmenu⟩ := h.menu
  have hitems : (ctx.find? ["menus"]).bind itemsOf? = some (MenuItem.listToJson items) := by
    rw [hmenu]
    rfl
  have htexts := h.texts
  simp only [List.mem_cons, List.not_mem_nil, or_false, forall_eq_or_imp, forall_eq] at htexts
  obtain ⟨happ, hhome, hdisplay, hrole, hversion, hyear⟩ := htexts
  have hentries : ∀ v ∈ MenuItem.listToJson items,
      ((Template.text (Text.joinWith "\n" ["", "        "])
        (.choose (.holds ["menu", "children"]) menuGroup (menuLink "menu" "        ")
          (.text (Text.joinWith "\n" ["", "        "]) .done))).eval
        (("menu", v) :: ctx)).isSome = true := by
    intro v hv
    obtain ⟨item, -, rfl⟩ := mem_listToJson hv
    rw [Template.isSome_eval_text, isSome_eval_menuEntry, Template.isSome_eval_text]
    rfl
  simp only [layout, Template.ofParts, Template.lines, Template.put, List.foldr,
    Template.isSome_eval_text, Template.isSome_eval_slot, Template.isSome_eval_append,
    Template.isSome_eval_done, Slot.isSome_fill_value, Slot.isSome_fill_valueOr,
    Template.isSome_eval_forEach hitems hentries, hcontent, happ, hhome, hdisplay, hrole, hversion,
    hyear, Bool.and_self]

/-- What stands in the layout is found in its text. -/
theorem eval_layout {ctx : Context} {content : Template} {body : String}
    (h : (layout content).eval ctx = some body) :
    ∃ inner front back, content.eval ctx = some inner ∧ body = front ++ inner ++ back := by
  have htail : ∃ footer, Template.Tail (layout content) (content.append footer) := by
    -- Every part in front of the content is stepped over; `footer` is what the last step leaves.
    constructor
    repeat first | exact .refl _ | refine .step rfl ?_
  obtain ⟨footer, htail⟩ := htail
  obtain ⟨front, rest, hrest, rfl⟩ := Template.eval_tail htail h
  rw [Template.eval_append] at hrest
  obtain ⟨inner, hinner, hrest⟩ := Option.bind_eq_some_iff.1 hrest
  obtain ⟨back, -, rfl⟩ := Option.map_eq_some_iff.1 hrest
  exact ⟨inner, front, back, hinner, by rw [String.append_assoc]⟩

/-! ## The dashboard, pages and the login page -/

/-- A panel is written or left out; neither can fail if there is a list of visible regions. -/
theorem isSome_eval_panel {ctx : Context} {regions : List Json}
    (h : ctx.find? ["visible_regions"] = some (.arr regions)) (region : String)
    (content : List String) (rest : Template) :
    ((panel region content rest).eval ctx).isSome = (rest.eval ctx).isSome := by
  have hcheck : (Test.among region ["visible_regions"]).check ctx =
      some (regions.any fun v => v.str? == some region) := by
    simp only [Test.check, h]
  cases hrest : rest.eval ctx <;> cases hvisible : regions.any fun v => v.str? == some region <;>
    simp [panel, Template.eval, Template.ofParts, Template.lines, hcheck, hrest, hvisible]

theorem isSome_eval_dashboardContent {ctx : Context} {regions : List Json}
    (h : ctx.find? ["visible_regions"] = some (.arr regions)) :
    (dashboardContent.eval ctx).isSome = true := by
  simp only [dashboardContent, Template.ofParts, Template.lines, List.foldr,
    Template.isSome_eval_text, isSome_eval_panel h, Template.isSome_eval_done]

theorem isSome_eval_pageContent {ctx : Context}
    (h : ∀ name ∈ ["page_title", "page_id", "api_base_url"], (ctx.find? [name]).isSome = true) :
    (pageContent.eval ctx).isSome = true := by
  simp only [List.mem_cons, List.not_mem_nil, or_false, forall_eq_or_imp, forall_eq] at h
  simp [pageContent, Template.ofParts, Template.lines, Template.put, h]

theorem isSome_eval_loginPage {ctx : Context} (happ : (ctx.find? ["app_name"]).isSome = true)
    (hpath : (ctx.find? ["login_path"]).isSome = true) : (loginPage.eval ctx).isSome = true := by
  cases herror : ctx.find? ["error"] <;>
    simp [loginPage, Template.ofParts, Template.lines, Template.put, happ, hpath, herror]

end ResidencePortal.Html
