import Mathlib.Data.List.Basic

/-! Texts, and pairs of texts, are looked up in lists by a comparison that is equality. -/

set_option autoImplicit false

namespace Terrasync.Lib

instance lawfulTexts : LawfulBEq (List Char) := inferInstance

instance lawfulTextPairs : LawfulBEq (List Char × List Char) := inferInstance

end Terrasync.Lib
