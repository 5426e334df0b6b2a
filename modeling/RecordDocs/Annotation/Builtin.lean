import RecordDocs.Annotation.TypeForm

/-!
# Built-in names

The names that annotations can use without a declaration and without a module: classes, functions,
constants, and a few things that have no name of their own.
-/

namespace RecordDocs.Annotation

def plainClassNames : List String :=
  ["ArithmeticError", "AssertionError", "AttributeError", "BaseException", "BlockingIOError",
    "BrokenPipeError", "BufferError", "BytesWarning", "ChildProcessError",
    "ConnectionAbortedError", "ConnectionError", "ConnectionRefusedError", "ConnectionResetError",
    "DeprecationWarning", "EOFError", "EncodingWarning", "Exception", "FileExistsError",
    "FileNotFoundError", "FloatingPointError", "FutureWarning", "GeneratorExit", "ImportError",
    "ImportWarning", "IndentationError", "IndexError", "InterruptedError", "IsADirectoryError",
    "KeyError", "KeyboardInterrupt", "LookupError", "MemoryError", "ModuleNotFoundError",
    "NameError", "NotADirectoryError", "NotImplementedError", "OSError", "OverflowError",
    "PendingDeprecationWarning", "PermissionError", "ProcessLookupError", "RecursionError",
    "ReferenceError", "ResourceWarning", "RuntimeError", "RuntimeWarning", "StopAsyncIteration",
    "StopIteration", "SyntaxError", "SyntaxWarning", "SystemError", "SystemExit", "TabError",
    "TimeoutError", "TypeError", "UnboundLocalError", "UnicodeDecodeError", "UnicodeEncodeError",
    "UnicodeError", "UnicodeTranslateError", "UnicodeWarning", "UserWarning", "ValueError",
    "Warning", "ZeroDivisionError", "bool", "bytearray", "bytes", "classmethod", "complex",
    "filter", "float", "int", "map", "memoryview", "object", "property", "range", "reversed",
    "slice", "staticmethod", "str", "super", "zip"]

def containerClassNames : List String :=
  ["BaseExceptionGroup", "ExceptionGroup", "dict", "enumerate", "frozenset", "list", "set",
    "tuple", "type"]

def functionNames : List String :=
  ["__build_class__", "__import__", "abs", "aiter", "all", "anext", "any", "ascii", "bin",
    "breakpoint", "callable", "chr", "compile", "delattr", "dir", "divmod", "eval", "exec",
    "format", "getattr", "globals", "hasattr", "hash", "hex", "id", "input", "isinstance",
    "issubclass", "iter", "len", "locals", "max", "min", "next", "oct", "ord", "pow", "print",
    "repr", "round", "setattr", "sorted", "sum", "vars"]

def builtinClass (kind : ClassKind) (name : String) : TypeForm :=
  .cls (.builtin name kind)

def nativeFunction (home name : String) : TypeForm :=
  .thing (.function name home true)

def promptHome : String := "_sitebuiltins"

def sessionEnd (name : String) : TypeForm :=
  .thing (.unnamed "Quitter" promptHome
    ("Use " ++ name ++ "() or Ctrl-D (i.e. EOF) to exit"))

def builtin? (name : String) : Option TypeForm :=
  if plainClassNames.contains name then some (builtinClass .plain name)
  else if containerClassNames.contains name then some (builtinClass .container name)
  else if functionNames.contains name then some (nativeFunction builtinHome name)
  else match name with
    | "EnvironmentError" => some (builtinClass .plain "OSError")
    | "IOError" => some (builtinClass .plain "OSError")
    | "open" => some (nativeFunction "io" name)
    | "None" => some (.constant .null)
    | "True" => some (.constant (.flag true))
    | "False" => some (.constant (.flag false))
    | "Ellipsis" => some (.constant .ellipsis)
    | "__debug__" => some (.constant (.flag true))
    | "NotImplemented" => some (.thing (.unnamed "NotImplementedType" builtinHome name))
    | "exit" => some (sessionEnd name)
    | "quit" => some (sessionEnd name)
    | "help" =>
        some (.thing (.unnamed "_Helper" promptHome
          "Type help() for interactive help, or help(object) for help about object."))
    | _ => none

end RecordDocs.Annotation
