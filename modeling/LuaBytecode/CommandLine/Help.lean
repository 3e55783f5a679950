import LuaBytecode.CommandLine.Basic

/-!
# Help texts

What the program prints about its own command line.
-/

set_option autoImplicit false

namespace LuaBytecode.CommandLine

def paragraph (lines : List String) : String :=
  String.join (lines.map (· ++ "\n"))

def programName : String := "luadistil"

def usage : String := paragraph [
  "usage: luadistil [-h] [-o OUTPUT] [--strip-debugging] [--instruction-objects]",
  "                 [--listing] [--indent INDENT] [--stdout] [--compile] [-v]",
  "                 path"]

def help : String := usage ++ paragraph [
  "",
  "Decode a compiled Lua 5.1 chunk into JSON.",
  "",
  "positional arguments:",
  "  path                  Bytecode file (e.g. script.luac)",
  "",
  "options:",
  "  -h, --help            show this help message and exit",
  "  -o OUTPUT, --output OUTPUT",
  "                        Output file (default: input name with .luac replaced",
  "                        by .json)",
  "  --strip-debugging     Omit line positions, locals and upvalue names from the",
  "                        output",
  "  --instruction-objects",
  "                        Emit each instruction as an \x7bop, A, B, C\x7d object",
  "  --listing             Write a textual listing instead of JSON",
  "  --indent INDENT       Pretty-print JSON with this indent",
  "  --stdout              Print the result instead of writing a file",
  "  --compile             Treat the input as Lua source and compile it with lupa",
  "                        first",
  "  -v, --verbose         Enable debug logging"]

def refusalText (refusal : Refusal) : String :=
  s!"{usage}{programName}: error: {refusal.message}\n"

end LuaBytecode.CommandLine
