import PrefixLint.Options
import PrefixLint.Text.Paragraph
import PrefixLint.Text.Template

/-!
# Usage and help

The texts that explain the command line, laid out for eighty columns. The explanation of an option
starts in a fixed column, on the line of the option if that is short enough. The explanation of the
policy option names the policy file and is a template, in which that name may refer to what is known
of the option.
-/

namespace PrefixLint.Command

def usageLines : List String :=
  ["usage: classname-prefix [-h] [--prefix-type PREFIX_TYPE] [--config CONFIG]",
    "                        [--log-level \x7bDEBUG,INFO,WARNING,ERROR,CRITICAL\x7d]",
    "                        paths [paths ...]"]

def description : String := "Check that JSX className values start with the component prefix."

def helpColumn : Nat := 24
def helpWidth : Nat := 54

def spaces (n : Nat) : String := String.ofList (List.replicate n ' ')

def helpEntry (header : String) (explanation : Text.Runs) : List String :=
  let lines := Text.wrap helpWidth explanation
  let head := spaces 2 ++ header
  if head.length + 2 ≤ helpColumn then
    match lines with
    | [] => [head]
    | first :: rest =>
      (head ++ spaces (helpColumn - head.length) ++ first) :: rest.map (spaces helpColumn ++ ·)
  else
    head :: lines.map (spaces helpColumn ++ ·)

def configHelp (policyFile : String) : String :=
  s!"Policy TOML file (default ./{policyFile} when present)"

def configValues (policyFile : String) : Text.Template.Values :=
  [("option_strings", .texts ["--config"]),
    ("dest", .text "config"),
    ("nargs", .null),
    ("const", .null),
    ("default", .null),
    ("type", .text "Path"),
    ("choices", .null),
    ("required", .truth false),
    ("help", .text (configHelp policyFile)),
    ("metavar", .null),
    ("container", .object "_ArgumentGroup" "<argparse._ArgumentGroup object at 0x7f0000000000>"),
    ("prog", .text ruleId)]

def helpLines (policyFile : String) : Except Text.Template.Fault (List String) := do
  let config ← Text.Template.expand (configValues policyFile) (configHelp policyFile)
  return usageLines ++ ["", description, "", "positional arguments:"] ++
    helpEntry "paths" (.ofString "ESTree JSON files or directories") ++
    ["", "options:"] ++
    helpEntry "-h, --help" (.ofString "show this help message and exit") ++
    helpEntry "--prefix-type PREFIX_TYPE"
      (.ofString "Prefix casing: dash, camelCase or underscore (default from policy, else dash)") ++
    helpEntry "--config CONFIG" config ++
    helpEntry "--log-level \x7bDEBUG,INFO,WARNING,ERROR,CRITICAL\x7d"
      (.ofString "Log level override (default env CLASSNAME_PREFIX_LOG_LEVEL or WARNING)")

def refusalLines (message : String) : List String :=
  usageLines ++ [s!"{ruleId}: error: {message}"]

end PrefixLint.Command
