import SpendingLimits.CommandLine.Arguments

namespace SpendingLimits.CommandLine

/-- Names under a title, and what there is to say about each of them. -/
structure Section where
  title : String
  lines : List (String × String)

/-- What help says about the program or one of its commands. -/
structure Page where
  about : String
  usage : String
  sections : List Section

/-- The title and a line for each name. What is said about the names stands in one column. -/
def Section.text (s : Section) : String :=
  let width := (s.lines.map (·.1.length)).foldl max 0
  s.title ++ ":" ++ String.join (s.lines.map fun (name, about) =>
    "\n  " ++ name.pushn ' ' (width + 2 - name.length) ++ about)

def Page.text (p : Page) : String :=
  "\n\n".intercalate (p.about :: ("Usage: limits " ++ p.usage) :: p.sections.map Section.text)

/-- An option as it is to be given. Its value is named like the option. -/
def OptionKind.form (o : OptionKind) : String :=
  "--" ++ o.name ++ " <" ++ (o.name.map fun c => if c = '-' then '_' else c.toUpper) ++ ">"

/-- The options with their values, and behind them the options without. -/
def optionSection (known : List OptionKind) (flags : List (String × String)) : Section :=
  ⟨"Options", known.map (fun o => ("    " ++ o.form, o.about)) ++ flags⟩

def helpFlag : String × String := ("-h, --help", "Print help")

namespace CommandName

def about : CommandName → String
  | check => "Check whether a transaction is within the account's limits"
  | limits => "Show the limits summary with current usage"
  | profile => "Show the resolved limit profile"
  | validate => "Validate the rule set and print a short report"
  | help => "Print this message or the help of the given subcommand(s)"

/-- How a command is given: the options that it needs are named. -/
def usage (c : CommandName) : String :=
  c.name ++ (if c.options.any (!·.isRequired) then " [OPTIONS]" else "") ++
    String.join ((c.options.filter (·.isRequired)).map fun o => " " ++ o.form)

/-- Only the command for help has an argument in place of options. -/
def page : CommandName → Page
  | help =>
    ⟨help.about, help.usage ++ " [COMMAND]...",
      [⟨"Arguments", [("[COMMAND]...", "Print help for the subcommand(s)")]⟩]⟩
  | c => ⟨c.about, c.usage, [optionSection c.options [helpFlag]]⟩

end CommandName

def programPage : Page where
  about := "Transaction limits engine CLI"
  usage := "[OPTIONS] <COMMAND>"
  sections :=
    [⟨"Commands", CommandName.all.map fun c => (c.name, c.about)⟩,
      optionSection fileOptions [helpFlag, ("-V, --version", "Print version")]]

/-- The help on a command, or on the program as a whole. -/
def helpText (about : Option CommandName) : String :=
  (about.elim programPage CommandName.page).text ++ "\n"

end SpendingLimits.CommandLine
