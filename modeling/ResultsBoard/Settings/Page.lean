import ResultsBoard.Settings.Reader
import ResultsBoard.Text.Blank

/-!
# Settings of a page

The root of the resources always follows the location of the page. The other settings come from
the document inside the page, if it has one, and are the defaults otherwise. `atStart` is what the
board starts with: when the document is refused, none of it counts.
-/

namespace ResultsBoard

/-- The page that the board is loaded into, as far as the settings depend on it. -/
structure Page where
  /-- Whether there is a window. -/
  window : Bool := true
  /-- Whether the window has a document. -/
  document : Bool := true
  /-- The host name of the location; nothing if it cannot be read. -/
  hostname : Option String := none
  /-- The number after the host name in the location; nothing if it cannot be read. -/
  hostNumber : Option String := none
  /-- The id of the only element of the document. -/
  elementId : String := ""
  /-- The text of that element. -/
  text : Option String := none

namespace Page

/-- The id of the element that holds the settings document. -/
def settingsElementId : String := "gekko-config"

/-- The root of the resources on a host (`api_base_from_parts`). The number is empty when it is the
default one. -/
def apiBaseFromParts (hostname number : String) : String :=
  if number = "" then "http://" ++ hostname else "http://" ++ hostname ++ ":" ++ number

/-- The root that the location gives, if it has a host name (`location_api_base`). A number that
cannot be read counts as empty. -/
def locationApiBase? (p : Page) : Option String :=
  if p.window then
    match p.hostname with
    | none => none
    | some hostname =>
      if hostname = "" then none else some (apiBaseFromParts hostname (p.hostNumber.getD ""))
  else none

/-- The root of the resources for a page. -/
def apiBase (p : Page) : String := p.locationApiBase?.getD Settings.defaultApiBase

/-- The text of the settings document (`inline_config_text`), if the page has one that is not
blank. -/
def settingsText? (p : Page) : Option String :=
  if p.window ∧ p.document ∧ p.elementId = settingsElementId then
    p.text.filter fun text => !Text.isBlank text
  else none

end Page

namespace Settings

/-- The defaults with the root that the page gives (`DashboardConfig::from_location`). -/
def ofLocation (p : Page) : Settings := { default with apiBase := p.apiBase }

/-- The settings of a page (`DashboardConfig::load`). -/
def load (p : Page) : Except SettingsFault Settings := do
  let s ← match p.settingsText? with
    | some text => ofText text
    | none => .ok default
  return { s with apiBase := p.apiBase }

/-- The settings that the board starts with, and why the document of the page was refused if it
was. -/
def atStart (p : Page) : Settings × Option SettingsFault :=
  match load p with
  | .ok s => (s, none)
  | .error fault => (ofLocation p, some fault)

end Settings

end ResultsBoard
