/-!
# What the command says of itself

How the command is used, as it is written to a terminal of eighty columns, and which version it is.
-/
namespace ChatMarkup.Cli

/-- The ways to show tables, as they are listed for a flag. -/
def tableModeChoices : String :=
  "\x7bcodeBlock,code_block,compactList,compact_list,detailedList,detailedListNoHeaders," ++
    "detailed_list,detailed_list_no_headers\x7d"

def usageLines : List String :=
  ["usage: md2tghtml [-h] [--out OUT] [--config CONFIG]",
   "                 [--strategy \x7btruncate,split\x7d] [--char-limit CHAR_LIMIT]",
   "                 [--table-mode " ++ tableModeChoices ++ "]",
   "                 [--no-table-headers] [--no-clean-escapes]",
   "                 [--input-format \x7bmarkdown,mdast\x7d] [--no-strict-mode]",
   "                 [--format \x7btext,json\x7d] [--records] [--text-field TEXT_FIELD]",
   "                 [--output-field OUTPUT_FIELD] [--continue-on-fail] [--rich]",
   "                 [--log-level \x7bDEBUG,INFO,WARNING,ERROR,CRITICAL\x7d] [--verbose]",
   "                 [--trace] [--log-file LOG_FILE] [--version]",
   "                 [input]"]

def helpLines : List String :=
  ["",
   "Convert Markdown into Telegram-compatible HTML messages.",
   "",
   "positional arguments:",
   "  input                 Input file, or '-' for stdin (default)",
   "",
   "options:",
   "  -h, --help            show this help message and exit",
   "  --out OUT, -o OUT     Write output to this file instead of stdout",
   "  --config CONFIG       Configuration file (overrides MD2TGHTML_CONFIG and",
   "                        discovery)",
   "  --version, -V         show program's version number and exit",
   "",
   "Conversion options:",
   "  --strategy \x7btruncate,split\x7d",
   "                        How to handle output longer than the character limit",
   "                        (default: truncate)",
   "  --char-limit CHAR_LIMIT",
   "                        Maximum characters per message, capped at 4096",
   "                        (default: 4096)",
   "  --table-mode " ++ tableModeChoices,
   "                        How to render tables (default: code_block)",
   "  --no-table-headers    Omit header labels in list table modes",
   "  --no-clean-escapes    Do not unescape literal \\\\ and \\n sequences in the",
   "                        input",
   "",
   "Input and output:",
   "  --input-format \x7bmarkdown,mdast\x7d",
   "                        Read Markdown text or an mdast JSON tree (default:",
   "                        markdown)",
   "  --no-strict-mode      Skip malformed mdast nodes instead of failing",
   "  --format \x7btext,json\x7d  Output messages as text separated by dashed lines or",
   "                        as a JSON array (default: text)",
   "  --records             Treat the input as JSON Lines records and write",
   "                        converted records as JSON Lines",
   "  --text-field TEXT_FIELD",
   "                        Record field holding the Markdown",
   "  --output-field OUTPUT_FIELD",
   "                        Record field receiving the HTML",
   "  --continue-on-fail    Keep processing records after a failure, marking",
   "                        failed records with an error field",
   "  --rich                Show messages in highlighted panels when writing to a",
   "                        terminal (requires md2tghtml[rich])",
   "",
   "Logging:",
   "  --log-level \x7bDEBUG,INFO,WARNING,ERROR,CRITICAL\x7d",
   "                        Logging level (default: WARNING)",
   "  --verbose, -v         Enable debug logging",
   "  --trace               Enable debug logging with timestamps and logger names",
   "  --log-file LOG_FILE   Also write log records to this file",
   "",
   "Settings are read from a config file (.md2tghtml.toml/.yaml/.json or",
   "[tool.md2tghtml] in pyproject.toml), then MD2TGHTML_<SETTING> environment",
   "variables, then command-line flags."]

def usageText : String := "\n".intercalate usageLines ++ "\n"

def helpText : String := "\n".intercalate (usageLines ++ helpLines) ++ "\n"

def versionText : String := "md2tghtml 1.0.0\n"

end ChatMarkup.Cli
