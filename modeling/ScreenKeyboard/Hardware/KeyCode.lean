/-!
Names of the key codes that a hardware keyboard sends, and the names among them that stand for a character
of the number pad or for no character at all.
-/

namespace ScreenKeyboard.Hardware

/-- Key codes with a name; a name may have several codes. -/
def keyNames : List (Nat × String) :=
  [(0, "\\"), (8, "\x08"), (9, "\t"), (12, "num"), (13, "\n"), (16, "shift"), (17, "meta"), (18, "alt"),
    (19, "pause"), (20, "caps"), (27, "esc"), (32, " "), (33, "pageup"), (34, "pagedown"), (35, "end"),
    (36, "home"), (37, "left"), (38, "up"), (39, "right"), (40, "down"), (44, "print"), (45, "insert"),
    (46, "delete"), (91, "cmd"), (92, "cmd"), (93, "cmd"), (96, "num0"), (97, "num1"), (98, "num2"),
    (99, "num3"), (100, "num4"), (101, "num5"), (102, "num6"), (103, "num7"), (104, "num8"), (105, "num9"),
    (106, "*"), (107, "+"), (108, "num_enter"), (109, "num_subtract"), (110, "num_decimal"),
    (111, "num_divide"), (112, "f1"), (113, "f2"), (114, "f3"), (115, "f4"), (116, "f5"), (117, "f6"),
    (118, "f7"), (119, "f8"), (120, "f9"), (121, "f10"), (122, "f11"), (123, "f12"), (124, "print"),
    (144, "num"), (145, "scroll"), (173, "-"), (186, ";"), (187, "="), (188, ","), (189, "-"), (190, "."),
    (191, "/"), (192, "`"), (219, "["), (220, "\\"), (221, "]"), (222, "'"), (223, "`"), (224, "cmd"),
    (225, "alt"), (57392, "ctrl"), (63289, "num")]

def keyName? (code : Nat) : Option String :=
  keyNames.lookup code

/-- Whether some key code has this name. -/
def isKeyName (name : String) : Bool :=
  keyNames.any (·.2 = name)

/-- Keys of the number pad and the characters they type. -/
def numberPad : List (String × String) :=
  [("num_subtract", "-"), ("num_enter", "\n"), ("num_decimal", "."), ("num_divide", "/")]

/-- Keys that type no character. -/
def silentKeys : List String :=
  ["\x08", "num", "shift", "meta", "alt", "pause", "caps", "esc", "pageup", "pagedown", "end", "home", "left",
    "up", "right", "down", "print", "insert", "delete", "cmd", "f1", "f2", "f3", "f4", "f5", "f6", "f7", "f8",
    "f9", "f10", "f11", "f12", "scroll", "ctrl"]

def isSilent (key : String) : Bool :=
  silentKeys.contains key

end ScreenKeyboard.Hardware
