import WlanAdmin.Field.Codec

/-!
# WlanAdmin.Field.Flag

Booleans in the two spellings of the controller.
-/

namespace WlanAdmin

/-- `enabled` and `disabled`. -/
def Codec.enabled : Codec Bool :=
  .words "EnabledBool" [true, false] fun on => if on then "enabled" else "disabled"

/-- `1` and `0`. -/
def Codec.bit : Codec Bool :=
  .words "IntBool" [true, false] fun on => if on then "1" else "0"

theorem Codec.enabled_lawful : Codec.enabled.Lawful :=
  Codec.words_lawful (by decide) (by decide)

theorem Codec.bit_lawful : Codec.bit.Lawful :=
  Codec.words_lawful (by decide) (by decide)

end WlanAdmin
