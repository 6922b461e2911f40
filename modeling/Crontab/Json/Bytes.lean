import Crontab.Json.Reader
import Crontab.Text.Layout

/-!
# JSON from bytes

A JSON text may arrive in any of the Unicode encodings. A mark in front tells which one, and is no
part of the text. Without a mark the zero bytes among the first four tell it, since the first
characters of the text are never NUL. Surrogates may be given by their bytes in all of them.
-/

namespace Crontab.Json

open Text (Layout)

/-- The layouts that a mark can tell. The mark of two-byte units can be the start of one of four-byte
units, which is therefore looked for first. -/
def markedLayouts : List Layout :=
  [.units 4 .big, .units 4 .little, .units 2 .big, .units 2 .little, .bytes]

/-- The layout that the zero bytes among the first four show. -/
def unmarkedLayout : List UInt8 → Layout
  | 0 :: 0 :: _ :: _ :: _ => .units 4 .big
  | 0 :: _ :: _ :: _ :: _ => .units 2 .big
  | _ :: 0 :: 0 :: 0 :: _ => .units 4 .little
  | _ :: 0 :: _ :: _ :: _ => .units 2 .little
  | [0, _] => .units 2 .big
  | [_, 0] => .units 2 .little
  | _ => .bytes

/-- The layout that the first bytes of a text show. -/
def layout (bytes : List UInt8) : Layout :=
  (markedLayouts.find? fun layout => layout.mark.isPrefixOf bytes).getD (unmarkedLayout bytes)

/-- A mark decides the layout, unless it is the start of a longer one. -/
theorem layout_mark_append {marked : Layout} (h : marked ∈ markedLayouts) {bytes : List UInt8}
    (hlong : marked = .units 2 .little → ¬[0, 0] <+: bytes) :
    layout (marked.mark ++ bytes) = marked := by
  simp only [markedLayouts, List.mem_cons, List.not_mem_nil, or_false] at h
  obtain rfl | rfl | rfl | rfl | rfl := h
  · rfl
  · rfl
  · rfl
  · have hfour : [0, 0].isPrefixOf bytes = false := by
      rw [Bool.eq_false_iff]
      exact fun h => hlong rfl (List.isPrefixOf_iff_prefix.mp h)
    simp [layout, markedLayouts, Layout.mark, List.find?, hfour, List.isPrefixOf]
  · rfl

/-- The value that some bytes spell, with containers nested no deeper than `depth`. -/
def ofBytes (depth : Nat) (bytes : List UInt8) : Except Fault Json :=
  let layout := layout bytes
  match layout.decode? (Text.withoutMark layout.mark bytes) with
  | some text => ofText depth text
  | none => .error .unreadable

/-- What follows a mark is read in the layout that the mark tells. -/
theorem ofBytes_mark_append (depth : Nat) {marked : Layout} (h : marked ∈ markedLayouts)
    {bytes : List UInt8} (hlong : marked = .units 2 .little → ¬[0, 0] <+: bytes) :
    ofBytes depth (marked.mark ++ bytes) =
      (marked.decode? bytes).elim (.error .unreadable) (ofText depth) := by
  unfold ofBytes
  dsimp only
  rw [layout_mark_append h hlong, Text.withoutMark_append]
  cases marked.decode? bytes <;> rfl

/-- A number in units of two bytes, marked as such. -/
example : ofBytes 0 [0xFE, 0xFF, 0x00, 0x37] = .ok (.int 7) := by cbv

/-- A text that is a surrogate on its own, in marked bytes. -/
example : ofBytes 0 [0xEF, 0xBB, 0xBF, 0x22, 0xED, 0xA0, 0x80, 0x22] =
    .ok (.string [.surrogate 0]) := by cbv

end Crontab.Json
