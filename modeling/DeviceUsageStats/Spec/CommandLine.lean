/-! The options of the command line tool (`main.cpp` of `ohos-usageStatsQuery`). -/

namespace DeviceUsageStats

namespace CommandLine

/-- A `std::string` as its characters. -/
abbrev Text := List Char

/-- The entries of `argv`, which may be null pointers; no entries for a null `argv`. -/
abbrev Argv := List (Option Text)

def dashed (key : Text) : Text := '-' :: '-' :: key

def afterEquals (arg : Text) : Text := (arg.dropWhile (· ≠ '=')).tail

/-- The loop of `ParseArg`; `arg.find("--" + key) == 0` is a test for a prefix. -/
def parseArgLoop (key defaultValue : Text) : Argv → Text
  | [] => defaultValue
  | none :: rest => parseArgLoop key defaultValue rest
  | some arg :: rest =>
    if (dashed key).isPrefixOf arg then
      if '=' ∈ arg then afterEquals arg
      else
        match rest with
        | some next :: _ =>
          if next.head? ≠ some '-' then next else parseArgLoop key defaultValue rest
        | _ => parseArgLoop key defaultValue rest
    else parseArgLoop key defaultValue rest

def parseArg (argv : Argv) (key : Text) (defaultValue : Text) : Text :=
  if argv.isEmpty then defaultValue else parseArgLoop key defaultValue argv

end CommandLine

end DeviceUsageStats
