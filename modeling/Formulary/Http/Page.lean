import Formulary.Text

/-!
# Pages

A request that comes by another path than the one of its route is answered by a page with a link. A
link in a page has the characters that pages are marked up with written by name or number.
-/

namespace Formulary.Http

/-- The characters that pages are marked up with, and how they are written. -/
def markup : List (Char × String) :=
  [('&', "&amp;"), ('<', "&lt;"), ('>', "&gt;"), ('"', "&#34;"), ('\'', "&#39;")]

def writeMarkup (text : Text) : Text :=
  text.flatMap fun c => ((markup.lookup c).map String.toList).getD [c]

/-- The page that sends a reader on to a link. -/
def redirection (link : Text) : Text :=
  let shown := String.ofList (writeMarkup link)
  let lines :=
    ["<!doctype html>", "<html lang=en>", "<title>Redirecting...</title>",
      "<h1>Redirecting...</h1>",
      "<p>You should be redirected automatically to the target URL: <a href=\"" ++ shown ++ "\">" ++
        shown ++ "</a>. If not, click the link.", ""]
  ("\n".intercalate lines).toList

end Formulary.Http
