import ResidencePortal.Html.Template

/-!
# The documents of the portal

The seven templates. Pages for visitors who are logged in share `layout`, which shows the menu, the
name of the visitor and the content of the page. A menu entry and a panel carry the identifier of
their region; a panel is there only if its region is visible.
-/

namespace ResidencePortal.Html

open Template

/-- The attribute that names the region of a menu item, if it has one. -/
def regionMark (item : String) : Template → Template :=
  .choose (.holds [item, "region"])
    (ofParts [.text " data-region=\"", put [item, "region"], .text "\""])
    .done

/-- The entry of an item that leads to a page; `indent` is the indentation of its line. -/
def menuLink (item indent : String) : Template :=
  ofParts
    [lines ["", indent ++ "<li class=\"nav-item\""],
      regionMark item,
      lines [">", indent ++ "    <a class=\"nav-link\" href=\""],
      put [item, "path"],
      .text "\">",
      put [item, "title"],
      lines ["</a>", indent ++ "</li>", indent]]

/-- The entry of an item with items below it. -/
def menuGroup : Template :=
  ofParts
    [lines ["", "        <li class=\"nav-item nav-group\">",
        "            <span class=\"nav-group-title\">"],
      put ["menu", "title"],
      lines ["</span>", "            <ul>", "                "],
      .forEach "child" ["menu", "children"] (menuLink "child" "                "),
      lines ["", "            </ul>", "        </li>", "        "]]

/-- The frame of the pages for visitors who are logged in. -/
def layout (content : Template) : Template :=
  ofParts
    [lines ["<!DOCTYPE html>", "<html lang=\"vi\">", "<head>", "    <meta charset=\"utf-8\">",
        "    <title>"],
      .slot (.valueOr ["page_title"] "BlueMoon"),
      .text " - ",
      put ["app_name"],
      lines ["</title>", "</head>", "<body data-role=\""],
      .slot (.valueOr ["user_role"] ""),
      lines ["\">", "<nav id=\"sidebar\">", "    <ul class=\"navbar-nav\">",
        "        <li class=\"nav-item\"><a class=\"nav-link\" href=\""],
      put ["home_path"],
      lines ["\">Dashboard</a></li>", "        "],
      .forEach "menu" ["menus"]
        (ofParts
          [lines ["", "        "],
            .choose (.holds ["menu", "children"]) menuGroup (menuLink "menu" "        "),
            lines ["", "        "]]),
      lines ["", "    </ul>", "</nav>", "<header id=\"topbar\">",
        "    <span id=\"userDisplay\" class=\"user-name\">"],
      put ["display_name"],
      lines ["</span>", "    <span class=\"badge\">"],
      put ["role_display_name"],
      lines ["</span>", "    <a href=\"/logout\">Đăng xuất</a>", "</header>", "<main id=\"content\">",
        "    "],
      content.append,
      lines ["", "</main>", "<footer>"],
      put ["app_name"],
      .text " ",
      put ["app_version"],
      .text " &copy; ",
      put ["current_year"],
      lines ["</footer>", "</body>", "</html>", ""]]

/-- Lines that are shown only if a region is visible. -/
def panel (region : String) (content : List String) : Template → Template :=
  .choose (.among region ["visible_regions"]) (ofParts [lines ([""] ++ content ++ ["    "])]) .done

/-- The content of the dashboard. -/
def dashboardContent : Template :=
  ofParts
    [lines ["", "<h1>Dashboard</h1>", "<div class=\"quick-actions\">", "    "],
      panel "financial-dashboard-widgets"
        ["    <a id=\"btnQuickCreateFee\" class=\"btn\" href=\"/khoan-thu\" " ++
          "data-region=\"financial-dashboard-widgets\">Tạo khoản thu mới</a>"],
      lines ["", "    "],
      panel "resident-menu"
        ["    <a id=\"btnQuickExportResidents\" class=\"btn\" href=\"/danh-sach-dan-cu\" " ++
          "data-region=\"resident-menu\">Xuất danh sách cư dân</a>"],
      lines ["", "</div>", "<div class=\"cards\">", "    "],
      panel "financial-charts"
        ["    <div class=\"card\" id=\"revenueChart\" data-region=\"financial-charts\">" ++
            "<div class=\"card-header\">Doanh thu</div></div>",
          "    <div class=\"card\" id=\"debtChart\" data-region=\"financial-charts\">" ++
            "<div class=\"card-header\">Công nợ</div></div>"],
      lines ["", "    "],
      panel "demographic-charts"
        ["    <div class=\"card\" id=\"demographicsChart\" data-region=\"demographic-charts\">" ++
          "<div class=\"card-header\">Nhân khẩu</div></div>"],
      lines ["", "</div>", ""]]

/-- The content of a page of the registry. -/
def pageContent : Template :=
  ofParts
    [lines ["", "<h1 id=\"page-title\">"],
      put ["page_title"],
      lines ["</h1>", "<div id=\"page-root\" data-page=\""],
      put ["page_id"],
      .text "\" data-api=\"",
      put ["api_base_url"],
      lines ["\"></div>", ""]]

/-- The login page. -/
def loginPage : Template :=
  ofParts
    [lines ["<!DOCTYPE html>", "<html lang=\"vi\">", "<head>", "    <meta charset=\"utf-8\">",
        "    <title>Đăng nhập - "],
      put ["app_name"],
      lines ["</title>", "</head>", "<body>", "<form method=\"post\" action=\""],
      put ["login_path"],
      lines ["\">", "    <h1>Đăng nhập</h1>", "    "],
      .choose (.holds ["error"])
        (ofParts [.text "<div class=\"alert alert-danger\">", put ["error"], .text "</div>"])
        .done,
      lines ["", "    <input type=\"text\" name=\"username\" placeholder=\"Tên đăng nhập\" value=\""],
      .slot (.valueOr ["username"] ""),
      lines ["\">", "    <input type=\"password\" name=\"password\" placeholder=\"Mật khẩu\">",
        "    <button type=\"submit\">Đăng nhập</button>", "</form>", "</body>", "</html>", ""]]

/-- The notice for a visitor who may not open a page. It stands alone: no layout and no menu. -/
def deniedPage : Template :=
  ofParts
    [lines ["<!DOCTYPE html>", "<html lang=\"vi\">", "<head>", "    <meta charset=\"utf-8\">",
        "    <title>"],
      put ["notice"],
      lines ["</title>", "    <noscript><meta http-equiv=\"refresh\" content=\"3;url="],
      put ["destination"],
      lines ["\"></noscript>", "</head>", "<body>", "<p class=\"alert alert-warning\">"],
      put ["notice"],
      lines ["</p>", "<script>", "    alert("],
      .slot (.encoded ["notice"]),
      lines [");", "    window.location.replace("],
      .slot (.encoded ["destination"]),
      lines [");", "</script>", "</body>", "</html>", ""]]

/-- The page for an address that leads nowhere. -/
def notFoundPage : Template :=
  ofParts
    [lines ["<!DOCTYPE html>", "<html lang=\"vi\">", "<head><meta charset=\"utf-8\"><title>404 - "],
      .slot (.valueOr ["app_name"] "BlueMoon"),
      lines ["</title></head>",
        "<body><h1>404 - Không tìm thấy trang</h1><a href=\"/\">Về trang chủ</a></body>", "</html>", ""]]

/-- The page for an error inside the portal. -/
def errorPage : Template :=
  ofParts
    [lines ["<!DOCTYPE html>", "<html lang=\"vi\">", "<head><meta charset=\"utf-8\"><title>500 - "],
      .slot (.valueOr ["app_name"] "BlueMoon"),
      lines ["</title></head>", "<body><h1>500 - Lỗi hệ thống</h1><p>"],
      .slot (.valueOr ["error_message"] ""),
      lines ["</p></body>", "</html>", ""]]

/-- The documents. -/
inductive Document where
  | layout
  | dashboard
  | page
  | login
  | denied
  | notFound
  | error
deriving Repr, DecidableEq

namespace Document

/-- Every document (`TEMPLATE_FILES`). -/
def all : List Document := [.layout, .dashboard, .page, .login, .denied, .notFound, .error]

/-- The template of a document. -/
def template : Document → Template
  | .layout => Html.layout .done
  | .dashboard => Html.layout dashboardContent
  | .page => Html.layout pageContent
  | .login => loginPage
  | .denied => deniedPage
  | .notFound => notFoundPage
  | .error => errorPage

/-- The name of a document without its ending. -/
def stem : Document → String
  | .layout => "layout"
  | .dashboard => "dashboard"
  | .page => "page"
  | .login => "login"
  | .denied => "denied"
  | .notFound => "errors/404"
  | .error => "errors/500"

/-- The name of a document, as messages show it. -/
def name (d : Document) : String := d.stem ++ ".html.tera"

/-- The document with a name. -/
def ofName? (name : String) : Option Document := all.find? fun d => d.name = name

end Document

end ResidencePortal.Html
