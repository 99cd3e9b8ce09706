import Kmip.Lib.Raises
import Kmip.Core.Protocol

/-!
# Exceptions of the core

What the accessors and readers raise, for a predicate that holds of their exceptions.
-/

namespace Kmip

open Except

namespace Element

variable {P : Abort → Prop}

theorem raises_toInt (h : P (.message "Element is not Integer")) (e : Element) : e.toInt.Raises P := by
  unfold toInt
  split
  · exact raises_ok _
  · exact (raises_error _).2 h

theorem raises_toEnum (h : P (.message "Element is not Enumeration")) (e : Element) : e.toEnum.Raises P := by
  unfold toEnum
  split
  · exact raises_ok _
  · exact (raises_error _).2 h

theorem raises_toString (h : P (.message "Element is not TextString")) (e : Element) : e.toString.Raises P := by
  unfold toString
  split
  · exact raises_ok _
  · exact (raises_error _).2 h

theorem raises_readChild {α : Type} {read : Element → Except Abort α} (h : ∀ e, (read e).Raises P) (e : Element)
    (childTag : Tag) : (e.readChild childTag read).Raises P := by
  unfold readChild
  split
  · exact raises_ok _
  · exact (h _).bind fun a _ => raises_ok _

end Element

end Kmip
