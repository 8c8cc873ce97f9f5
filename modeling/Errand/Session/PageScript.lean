import Errand.Json.Printer
import Errand.Text.Search

/-!
# Scripts that run in the page

The scripts by which a session looks at a page and plays its video. Two of them
are about the element that a selector finds; the selector is put into them as a
quoted string, so whatever it holds, it stays one string.
-/

namespace Errand.PageScript

/-- Where the selector goes in a script. -/
def selectorPlace : String := "__SELECTOR__"

/-- Says whether the element is visible, hidden or detached. -/
def elementState : String :=
  "\n".intercalate [
    "",
    "(() => \x7b",
    "    const el = document.querySelector(__SELECTOR__);",
    "    if (!el) return 'detached';",
    "    const rect = el.getBoundingClientRect();",
    "    const style = window.getComputedStyle(el);",
    "    const shown = rect.width > 0 && rect.height > 0",
    "        && style.visibility !== 'hidden' && style.display !== 'none';",
    "    return shown ? 'visible' : 'hidden';",
    "\x7d)()",
    ""]

/-- Empties the field that the selector finds. -/
def clearField : String :=
  "\n".intercalate [
    "",
    "(() => \x7b",
    "    const el = document.querySelector(__SELECTOR__);",
    "    if (!el) return false;",
    "    if ('value' in el) \x7b el.value = ''; \x7d else \x7b el.textContent = ''; \x7d",
    "    el.dispatchEvent(new Event('input', \x7b bubbles: true \x7d));",
    "    return true;",
    "\x7d)()",
    ""]

/-- Plays the video of the page. -/
def play : String :=
  "\n".intercalate [
    "",
    "(() => \x7b",
    "    const v = document.querySelector('video');",
    "    if (!v) return 'missing';",
    "    const p = v.play();",
    "    if (p && p.catch) p.catch(() => \x7b\x7d);",
    "    return 'ok';",
    "\x7d)()",
    ""]

/-- Mutes the video of the page and plays it. -/
def forcePlay : String :=
  "\n".intercalate [
    "",
    "(() => \x7b",
    "    const v = document.querySelector('video');",
    "    if (!v) return 'missing';",
    "    v.muted = true;",
    "    const p = v.play();",
    "    if (p && p.catch) p.catch(() => \x7b\x7d);",
    "    return 'ok';",
    "\x7d)()",
    ""]

/-- Says whether the video of the page can be played. -/
def videoReady : String :=
  "\n".intercalate [
    "",
    "(() => \x7b",
    "    const v = document.querySelector('video');",
    "    return !!v && v.readyState >= 2;",
    "\x7d)()",
    ""]

/-- A script with the selector in its place. -/
def withSelector (script selector : String) : String :=
  Text.replace selectorPlace (Json.str selector).compress script

end Errand.PageScript
