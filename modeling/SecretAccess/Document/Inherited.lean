import SecretAccess.Document

namespace SecretAccess.Document

/-- Names that every object has from the start: something is found under them, though no field is called so. -/
def inheritedNames : List String :=
  ["constructor", "hasOwnProperty", "isPrototypeOf", "propertyIsEnumerable", "toLocaleString",
    "toString", "valueOf", "__proto__", "__defineGetter__", "__defineSetter__", "__lookupGetter__",
    "__lookupSetter__"]

def isInherited (name : String) : Bool :=
  inheritedNames.contains name

end SecretAccess.Document
