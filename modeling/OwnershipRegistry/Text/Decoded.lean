/-! # Text in bytes -/

namespace OwnershipRegistry.Text

/-- The text that bytes encode, if they are valid. -/
def decoded? (bs : List UInt8) : Option String := String.fromUTF8? ⟨bs.toArray⟩

end OwnershipRegistry.Text
