/-!
Settings of the keyboard and of the viewer for a remote screen, with a default for each of them.
-/

namespace ScreenKeyboard

structure KeyboardSettings where
  /-- Whether closing the keyboard forgets its listeners. -/
  forgetful : Bool := false
  deriving DecidableEq, Repr

structure ViewerSettings where
  /-- The host of the remote screen; if empty, the host that served the page. -/
  host : String := ""
  /-- The port of the remote screen; zero stands for none. -/
  port : UInt16 := 5901
  path : String := "websockify"
  /-- A token that is added to the query of the address. -/
  token : Option String := none
  /-- Whether the connection is encrypted; if not set, as the page was. -/
  encrypt : Option Bool := none
  shared : Bool := true
  viewOnly : Bool := false
  scale : Bool := true
  resize : Bool := false
  repeaterId : String := ""
  password : String := ""
  /-- The name of the log level. -/
  logging : String := "warn"
  deriving DecidableEq, Repr

structure Settings where
  keyboard : KeyboardSettings := {}
  viewer : ViewerSettings := {}
  deriving DecidableEq, Repr

end ScreenKeyboard
