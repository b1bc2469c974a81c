import Dosm.Python.Value

namespace Dosm.Recording

open Python

/-! The options of a recording and the text its journal gets.

Times are texts given by the caller.
-/

structure RecordingOptions where
  timestamps : Bool := true
  pipelines : Bool := true
  hostOpens : Bool := true
  commands : Bool := true
  terminalOutput : Bool := true
  clipboard : Bool := true
  planCards : Bool := true
  monitoring : Bool := true
  navigation : Bool := false
  outputCapKb : Int := 10
  guacKeystrokes : Bool := false
  deriving DecidableEq

/-- `from_dict` over the given defaults; `int` of the cap may raise. -/
def RecordingOptions.fromDict (defaults : RecordingOptions) (dict : Args) : Option RecordingOptions :=
  let flag (name : String) (default : Bool) : Bool := ((dict.lookup name).map Value.truthy).getD default
  let cap : Option Int := (dict.lookup "output_cap_kb").elim (some defaults.outputCapKb) Value.toInt
  cap.map fun outputCapKb => {
    timestamps := flag "timestamps" defaults.timestamps
    pipelines := flag "pipelines" defaults.pipelines
    hostOpens := flag "host_opens" defaults.hostOpens
    commands := flag "commands" defaults.commands
    terminalOutput := flag "terminal_output" defaults.terminalOutput
    clipboard := flag "clipboard" defaults.clipboard
    planCards := flag "plan_cards" defaults.planCards
    monitoring := flag "monitoring" defaults.monitoring
    navigation := flag "navigation" defaults.navigation
    outputCapKb
    guacKeystrokes := flag "guac_keystrokes" defaults.guacKeystrokes }

def opening (slug username started : String) : String :=
  "# Session Journal: " ++ slug ++ "\n\n- **User:** " ++ username ++ "\n- **Started:** " ++ started ++ "\n\n---\n\n"

def entryHeader (options : RecordingOptions) (clock category : String) : String :=
  if options.timestamps then "**[" ++ clock ++ "] " ++ category ++ "**" else "**" ++ category ++ "**"

def writeEvent (options : RecordingOptions) (clock category text : String) : String :=
  entryHeader options clock category ++ " - " ++ text ++ "\n\n"

def writeBlock (options : RecordingOptions) (clock category label content : String) : String :=
  entryHeader options clock category ++ (if label = "" then "" else " - " ++ label) ++
    "\n\n```\n" ++ content ++ "\n```\n\n"

def footer (status ended : String) : String := "---\n\n*Recording " ++ status ++ ": " ++ ended ++ "*\n"

/-- What a copy or a paste adds to the journal. -/
def clipboardText (options : RecordingOptions) (clock direction content : String) : String :=
  if !options.clipboard || strip content = "" then ""
  else
    let display := if content.length ≤ 2000 then content else slice 0 2000 content ++ "\n… [truncated]"
    writeBlock options clock ("Clipboard " ++ direction) "" display

/-- What a line typed in a Guacamole session adds; `upper` is `str.upper`. -/
def guacText (upper : String → String) (options : RecordingOptions) (clock protocol hostName line : String) :
    String :=
  if options.guacKeystrokes then
    writeEvent options clock ("Guac " ++ upper protocol ++ " keystroke")
      ((if hostName = "" then "" else "`" ++ hostName ++ "` ") ++ "$ `" ++ line ++ "`")
  else ""

end Dosm.Recording
