/-
What a command line may look like, as a text for whoever types it.
-/
import Scrollback.CommandLine.Error

namespace Scrollback

/-- How the program is used. -/
def usage : String :=
  "Count and find lines in historical chat logs\n\n" ++
    "Usage: chatlog [OPTIONS] <count|find> [QUERY OPTIONS] <PATTERN>\n\n" ++
    "Options:\n" ++
    "      --debug          Write debug logs to /tmp/chatlog-debug.log\n" ++
    "      --config <PATH>  Config file to use instead of ~/.config/chatlog/config.toml\n" ++
    "  -h, --help           Print help\n\n" ++
    "Query options:\n" ++
    "      --channel <CHANNEL>     Channels to search, comma separated\n" ++
    "      --user <USER>           Users whose logs to search, comma separated\n" ++
    "      --all-users             Search whole-channel logs instead of user logs\n" ++
    "      --period <BEGIN> <END>  Half-open period; defaults to the current month\n" ++
    "      --caseless              ASCII case-insensitive matching\n" ++
    "      --regex                 Treat the pattern as a regular expression\n" ++
    "      --service <SERVICE>     gempir (default) or overrustle\n"

/-- The wording of a fault; asking for help is none. -/
def UsageError.message? : UsageError → Option String
  | .helpAsked => none
  | .nothingAsked => some "nothing is asked for"
  | .missingCommand => some "a command is missing"
  | .unknownCommand => some "this is no command"
  | .unknownArgument => some "unexpected argument"
  | .missingArgument => some "a required argument is missing"
  | .conflict => some "arguments cannot be used together, or more than once"
  | .emptyValue => some "an option has no value"
  | .invalidValue => some "a value is not one that the option takes"
  | .wrongCount => some "an option has too few values"
  | .tooManyValues => some "a flag has a value"

end Scrollback
