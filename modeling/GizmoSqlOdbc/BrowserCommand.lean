import GizmoSqlOdbc.AuthMethods

/-! How `/bin/sh -c` reads the line `system()` receives from
`OAuthAuthMethod::LaunchBrowser` on macOS and Linux (the command's `c_str()`, so only
its characters before the first NUL), for the part of the shell
language a line of plain words and quotes uses (token recognition and quote
removal): blanks separate words; outside quotes a backslash keeps the next
character; single quotes keep everything up to the next one; double quotes keep
everything up to the next unescaped one, except that `$` and backquote start an
expansion and a backslash escapes `$`, backquote, `"`, itself and newline. A line
that would be anything but one simple command of literal words (an operator, an
expansion, a pattern, a comment, an unterminated quote) reads as `none`, so a
`some` answer is exactly what the shell runs.

On Linux `system` starts the shell through `execve`, which refuses an argument longer
than `MAX_ARG_STRLEN`; then no shell runs at all. macOS bounds the arguments only
together with the environment, which the sources do not fix, so the launch is followed
to its words there and to the shell it starts on Linux.

The driver wraps the URL in double quotes and escapes nothing in it: a URL free
of NUL and of the four characters special inside double quotes is read back whole,
and one that closes the quote is split into words of the server's choosing. -/
namespace GizmoSqlOdbc.BrowserCommand
open GizmoSqlOdbc.Flight GizmoSqlOdbc.AuthMethods

/-- Outside quotes (with the word read so far, `none` between words), inside
double quotes, or inside single quotes. -/
inductive Lexer where
  | plain (word : Option (List Char))
  | double (word : List Char)
  | single (word : List Char)

def isBlank (c : Char) : Bool := c = ' ' || c = '\t'

/-- Unquoted characters that end a simple command or start an expansion, a
pattern, a comment, a tilde prefix, an assignment or a reserved word. -/
def isSpecial (c : Char) : Bool :=
  c ∈ ['|', '&', ';', '<', '>', '(', ')', '$', '\x60', '\n', '*', '?', '[', '#', '~', '=',
    '\x7b', '\x7d', '!']

/-- The characters a backslash escapes inside double quotes. -/
def escapableInDouble (c : Char) : Bool :=
  c = '$' || c = '\x60' || c = '"' || c = '\\' || c = '\n'

/-- The words read so far, then the rest of the line from the lexer state. -/
def readWords : Lexer → List String → List Char → Option (List String)
  | .plain none, words, [] => some words
  | .plain (some word), words, [] => some (words ++ [String.mk word])
  | .double _, _, [] => none
  | .single _, _, [] => none
  | .plain word, words, c :: rest =>
    if isBlank c then readWords (.plain none) (words ++ (word.map String.mk).toList) rest
    else if c = '"' then readWords (.double (word.getD [])) words rest
    else if c = '\'' then readWords (.single (word.getD [])) words rest
    else if c = '\\' then
      match rest with
      | [] => none
      | d :: rest' =>
        if d = '\n' then readWords (.plain word) words rest'
        else readWords (.plain (some (word.getD [] ++ [d]))) words rest'
    else if isSpecial c then none
    else readWords (.plain (some (word.getD [] ++ [c]))) words rest
  | .double word, words, c :: rest =>
    if c = '"' then readWords (.plain (some word)) words rest
    else if c = '$' ∨ c = '\x60' then none
    else if c = '\\' then
      match rest with
      | [] => none
      | d :: rest' =>
        -- an escape, or a literal backslash before an ordinary character
        if escapableInDouble d then
          readWords (.double (if d = '\n' then word else word ++ [d])) words rest'
        else readWords (.double (word ++ ['\\', d])) words rest'
    else readWords (.double (word ++ [c])) words rest
  | .single word, words, c :: rest =>
    if c = '\'' then readWords (.plain (some word)) words rest
    else readWords (.single (word ++ [c])) words rest

/-- The words of the simple command `sh -c line` runs, when the line is one. -/
def shellWords (line : String) : Option (List String) := readWords (.plain none) [] line.toList

/-- The server's URL `a" "b` makes the Linux launch line `xdg-open "a" "b"`, which
the shell runs with the two arguments `a` and `b`. -/
theorem launch_command_splits_quoted_url :
    browserRequest .other "a\" \"b" = .system "xdg-open \"a\" \"b\"" ∧
      shellWords "xdg-open \"a\" \"b\"" = some ["xdg-open", "a", "b"] :=
  ⟨rfl, by decide⟩

end GizmoSqlOdbc.BrowserCommand
