import PrismaNest.Command.Arguments

/-! Help texts of the commands. Each opens with the usage, which errors show as well. -/

set_option autoImplicit false

namespace PrismaNest

/-- A help text: its usage lines, and the lines after them. -/
structure HelpText where
  usage : List String
  details : List String
  deriving DecidableEq, Repr

namespace HelpText

def lines (lines : List String) : String :=
  String.join (lines.map (· ++ "\n"))

def usageText (help : HelpText) : String :=
  lines help.usage

def fullText (help : HelpText) : String :=
  lines (help.usage ++ help.details)

def generate : HelpText where
  usage := [
    "usage: nestgen [-h] [--version] [-s PATH] [-o DIR] [-c CONFIG] [--first-only]",
    "               [--exclude FIELD [FIELD ...]] [--no-swagger] [--no-guards]",
    "               [--no-common] [--extension EXT] [--dry-run] [--manifest] [-v]",
    "               [-q]",
    "               [MODEL ...]"]
  details := [
    "",
    "nestgen - NestJS resource generator.",
    "",
    "Reads a Prisma-style schema and writes validated DTOs, an entity, a service, a controller and a module for each model.",
    "",
    "positional arguments:",
    "  MODEL                 Model names to generate (exact match). Default: all",
    "                        models.",
    "",
    "options:",
    "  -h, --help            show this help message and exit",
    "  --version             show program's version number and exit",
    "",
    "input / output:",
    "  -s PATH, --schema PATH",
    "                        Schema file (default: prisma/schema.prisma).",
    "  -o DIR, --output DIR  Output root directory (default: generated).",
    "  -c CONFIG, --config CONFIG",
    "                        YAML or JSON file with generation settings.",
    "",
    "configuration overrides:",
    "  --first-only          Without MODEL arguments, generate only the first",
    "                        model.",
    "  --exclude FIELD [FIELD ...]",
    "                        Field names left out of create-DTOs (replaces the",
    "                        default list).",
    "  --no-swagger          Don't emit @nestjs/swagger decorators.",
    "  --no-guards           Don't guard controllers with the auth guard.",
    "  --no-common           Don't emit common/dto/base-query.dto.",
    "  --extension EXT       Extension of generated files (default: ts).",
    "",
    "operation modes:",
    "  --dry-run             Render everything but don't write files to disk.",
    "  --manifest            Write nestgen-manifest.json with file checksums.",
    "",
    "verbosity:",
    "  -v, --verbose         Increase verbosity (-v for INFO, -vv for DEBUG).",
    "  -q, --quiet           Suppress all output except the exit code.",
    "",
    "Examples:",
    "  nestgen",
    "  nestgen User Post -o src",
    "  nestgen --first-only -s prisma/schema.prisma",
    "  nestgen -c nestgen.yaml --dry-run -v"]

def scaffold : HelpText where
  usage := [
    "usage: nestgen-scaffold [-h] [--version] \x7bresource\x7d ..."]
  details := [
    "",
    "Scaffold an empty NestJS resource from templates.",
    "",
    "positional arguments:",
    "  \x7bresource\x7d",
    "    resource  Generate a new resource.",
    "",
    "options:",
    "  -h, --help  show this help message and exit",
    "  --version   show program's version number and exit"]

def resource : HelpText where
  usage := [
    "usage: nestgen-scaffold resource [-h] [-o DIR] [-t TEMPLATES_DIR] [-v] name"]
  details := [
    "",
    "positional arguments:",
    "  name                  Resource name, e.g. 'user'.",
    "",
    "options:",
    "  -h, --help            show this help message and exit",
    "  -o DIR, --output DIR  Parent directory of the resource folder (default:",
    "                        src).",
    "  -t TEMPLATES_DIR, --templates TEMPLATES_DIR",
    "                        Directory holding the template files (default: built-",
    "                        in).",
    "  -v, --verbose         Increase verbosity (-v for INFO, -vv for DEBUG)."]

end HelpText

end PrismaNest
