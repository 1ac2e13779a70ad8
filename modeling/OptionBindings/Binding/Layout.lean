import OptionBindings.Binding.Declaration

/-!
# Layout of a Swift file

The text of a file of bindings: a header, one block of lines for each declaration, and a footer.
-/

namespace OptionBindings

def defaultPackage : String :=
  "fdbclient-swift"

def defaultCopyrightHolder : String :=
  "Apple Inc. and the FoundationDB project authors"

/-- What the header of a file tells beyond its scope. -/
structure Imprint where
  package : String := defaultPackage
  copyrightHolder : String := defaultCopyrightHolder
  year : Int
  uid : String

namespace Layout

def line (text : List Char) : List Char :=
  text ++ ['\n']

def fixed (texts : List String) : List Char :=
  texts.flatMap fun text => line text.toList

def headerTexts (imprint : Imprint) (scope : Scope) : List String :=
  ["// -*- mode: swift; coding: utf-8-unix; -*- vi:ai:et:sw=4",
   "//",
   "// Package: " ++ imprint.package,
   "//",
   "// © " ++ toString imprint.year ++ " " ++ imprint.copyrightHolder,
   "// ALL RIGHTS RESERVED.",
   "//",
   "// This file was automatically generated. DO NOT EDIT.",
   "//",
   "// UUID: " ++ imprint.uid,
   "",
   "import Clibfdb",
   "import Foundation",
   "",
   "extension " ++ scope.typeName ++ " \x7b"]

def header (imprint : Imprint) (scope : Scope) : List Char :=
  fixed (headerTexts imprint scope)

def footerTexts : List String :=
  ["\x7d",
   "",
   "// End of file",
   "",
   "// Local Variables:",
   "// indent-tabs-mode: nil",
   "// swift-mode:basic-offset: 4",
   "// End:"]

def footer : List Char :=
  fixed footerTexts

/-- The lines of one declaration, with an empty one before them. -/
def block (declaration : Declaration) : List Char :=
  line [] ++
    (declaration.docLines.flatMap fun text => line ("    /// ".toList ++ text)) ++
    (if declaration.deprecated then line "    @available(*, deprecated)".toList else []) ++
    line ("    public static let ".toList ++ declaration.identifier ++ " = ".toList ++
      declaration.value)

def file (imprint : Imprint) (scope : Scope) (declarations : List Declaration) : List Char :=
  header imprint scope ++ declarations.flatMap block ++ footer

end Layout
end OptionBindings
