import SlideDeck.Node.Kind

namespace SlideDeck.Catalogue

def version : String := "0.1.0"

def names : List String :=
  ["Arguments", "Beamer", "BeamerConfig", "BeamerDslError", "Block", "Code", "Command", "ConfigError",
    "Container", "ContainingCommand", "Environment", "Frame", "Header", "Itemize", "NewCommand", "Node",
    "NodeKind", "OwnershipError", "Package", "PackageConfig", "RawText", "Renderer", "TranslatableText",
    "__version__", "beamer", "on_slide", "setup_logging", "slide_range", "translate"]

def kinds : List (String × String) := Kind.all.map fun kind => (kind.constant, kind.label)

end SlideDeck.Catalogue
