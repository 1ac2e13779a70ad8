/-!
# Faults of a document

The reasons why a document is not well-formed, each with its one text.
-/

namespace OptionBindings.Xml

inductive Fault
  | syntaxError
  | noElement
  | invalidToken
  | unclosedToken
  | partialCharacter
  | mismatchedTag
  | duplicateAttribute
  | junkAfterRoot
  | parameterReference
  | undefinedEntity
  | recursiveEntity
  | asynchronousEntity
  | invalidCharacterNumber
  | binaryEntity
  | externalInAttribute
  | misplacedDeclaration
  | unknownEncoding
  | incorrectEncoding
  | unclosedCData
  | incompleteParameter
  | malformedDeclaration
  | publicIdentifier
  | amplification
  deriving DecidableEq, Repr

def Fault.message : Fault → String
  | syntaxError => "syntax error"
  | noElement => "no element found"
  | invalidToken => "not well-formed (invalid token)"
  | unclosedToken => "unclosed token"
  | partialCharacter => "partial character"
  | mismatchedTag => "mismatched tag"
  | duplicateAttribute => "duplicate attribute"
  | junkAfterRoot => "junk after document element"
  | parameterReference => "illegal parameter entity reference"
  | undefinedEntity => "undefined entity"
  | recursiveEntity => "recursive entity reference"
  | asynchronousEntity => "asynchronous entity"
  | invalidCharacterNumber => "reference to invalid character number"
  | binaryEntity => "reference to binary entity"
  | externalInAttribute => "reference to external entity in attribute"
  | misplacedDeclaration => "XML or text declaration not at start of entity"
  | unknownEncoding => "unknown encoding"
  | incorrectEncoding => "encoding specified in XML declaration is incorrect"
  | unclosedCData => "unclosed CDATA section"
  | incompleteParameter => "incomplete markup in parameter entity"
  | malformedDeclaration => "XML declaration not well-formed"
  | publicIdentifier => "illegal character(s) in public id"
  | amplification => "limit on input amplification factor (from DTD and entities) breached"

end OptionBindings.Xml
