import PageServer.Files.Tree
/-! The templates that come with the service: a layout with a link to each page, which marks the
page shown, and the two pages. They lie in a directory of their own, beside the one in which all
other files are. -/
namespace PageServer.Bundled

open Files Text

def layout : String :=
  "<!DOCTYPE html>\n" ++
    "<html lang=\"en\">\n" ++
    "<head>\n" ++
    "    <meta charset=\"utf-8\">\n" ++
    "    <meta name=\"viewport\" content=\"width=device-width, initial-scale=1\">\n" ++
    "    <title>\x7b% block title %\x7dpagedemo\x7b% endblock %\x7d</title>\n" ++
    "</head>\n" ++
    "<body>\n" ++
    "    <nav>\n" ++
    "        <a href=\"/index\"\x7b% if view_name == \"index\" %\x7d aria-current=\"page\"\x7b% endif %\x7d>Home</a>\n" ++
    "        <a href=\"/login\"\x7b% if view_name == \"login\" %\x7d aria-current=\"page\"\x7b% endif %\x7d>Sign in</a>\n" ++
    "    </nav>\n" ++
    "    <main>\n" ++
    "        \x7b% block content %\x7d\x7b% endblock %\x7d\n" ++
    "    </main>\n" ++
    "</body>\n" ++
    "</html>\n"

def indexPage : String :=
  "\x7b% extends \"base.html\" %\x7d\n" ++
    "\x7b% block title %\x7dHome · pagedemo\x7b% endblock %\x7d\n" ++
    "\x7b% block content %\x7d\n" ++
    "<h1>Welcome</h1>\n" ++
    "<p>This is the index page.</p>\n" ++
    "\x7b% endblock %\x7d\n"

def loginPage : String :=
  "\x7b% extends \"base.html\" %\x7d\n" ++
    "\x7b% block title %\x7dSign in · pagedemo\x7b% endblock %\x7d\n" ++
    "\x7b% block content %\x7d\n" ++
    "<h1>Sign in</h1>\n" ++
    "<form method=\"post\" action=\"/login\">\n" ++
    "    <label for=\"username\">Username</label>\n" ++
    "    <input id=\"username\" name=\"username\" type=\"text\" autocomplete=\"username\">\n" ++
    "    <label for=\"password\">Password</label>\n" ++
    "    <input id=\"password\" name=\"password\" type=\"password\" autocomplete=\"current-password\">\n" ++
    "    <button type=\"submit\">Sign in</button>\n" ++
    "</form>\n" ++
    "\x7b% endblock %\x7d\n"

def place : Place := ["@bundled".toList]

def page (name text : String) : Place × Node :=
  (place ++ [name.toList], .file (encodeUtf8 text.toList))

/-- The tree before any file is written: the working directory and the bundled templates. -/
def tree : Tree :=
  ⟨[(workingPlace, .directory), (place, .directory), page "base.html" layout,
    page "index.html" indexPage, page "login.html" loginPage]⟩

end PageServer.Bundled
