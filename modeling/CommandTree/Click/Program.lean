import CommandTree.Click.Text
import CommandTree.Target

/-!
# Click programs

A Click program starts with the functions that its commands call: one puts values into the context,
one returns a logger.  It ends with a call of the command to start with.

* `Click.target` is Click as a target.
-/

namespace CommandTree

namespace Click

/-- The lines before all declarations. -/
def headerLines : List String := [
    "import logging",
    "",
    "import click",
    "",
    "",
    "def set_context_obj(ctx, attrs=None):",
    "    \"\"\"Merge attrs into ctx.obj; values set by a child overwrite its parent's.\"\"\"",
    "    ctx.ensure_object(dict)",
    "    for key, value in (attrs or \x7b\x7d).items():",
    "        ctx.obj[key] = value",
    "",
    "",
    "def get_logger(name):",
    "    \"\"\"Return a logger writing to <name>.log, rebuilt on every invocation.\"\"\"",
    "    logger = logging.getLogger(str(name))",
    "    logger.setLevel(logging.DEBUG)",
    "    handler = logging.FileHandler(str(name) + \".log\")",
    "    handler.setFormatter(",
    "        logging.Formatter(",
    "            \"[%(asctime)s] p%(process)s \x7b%(filename)s:%(lineno)d\x7d %(levelname)s - %(message)s\",",
    "            \"%Y-%m-%d %H:%M:%S\",",
    "        )",
    "    )",
    "    logger.handlers.clear()",
    "    logger.addHandler(handler)",
    "    return logger",
    "",
    ""]

/-- The text before all declarations. -/
def header : String :=
  String.join (headerLines.map (· ++ "\n"))

/-- The text after all declarations, which calls the function with an identifier. -/
def footer (identifier : String) : String :=
  (SourceText.fourSpaces.write
    (.block "if __name__ == \"__main__\":" [.line (identifier ++ "()")])).text

/-- Click as a target. -/
def target : Target where
  name := "click"
  root := root
  header := header
  declaration := declaration
  footer := footer

end Click

end CommandTree
