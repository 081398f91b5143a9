import ScreenKeyboard.Hardware.KeyEvent
import ScreenKeyboard.Keyboard.Session
import ScreenKeyboard.Panel
import ScreenKeyboard.Proofs.History
import ScreenKeyboard.Settings.Loading
import ScreenKeyboard.Settings.Writing
import ScreenKeyboard.Terminal.Screen
import ScreenKeyboard.Viewer.Session
import ScreenKeyboard.Proofs.Legends
import ScreenKeyboard.Proofs.Typing
import ScreenKeyboard.Proofs.Listeners
import ScreenKeyboard.Proofs.Quotes
import ScreenKeyboard.Proofs.Numerals
import ScreenKeyboard.Proofs.Documents
import ScreenKeyboard.Proofs.Settings
import ScreenKeyboard.Proofs.Forms
import ScreenKeyboard.Proofs.Hosts
import ScreenKeyboard.Proofs.Addresses
import ScreenKeyboard.Proofs.Endpoint
import ScreenKeyboard.Proofs.Fields
import ScreenKeyboard.Proofs.Displays
import ScreenKeyboard.Proofs.Lights
import ScreenKeyboard.Proofs.DoubleTurns
import ScreenKeyboard.Proofs.Viewing
import ScreenKeyboard.Proofs.Redrawing
import ScreenKeyboard.Proofs.Keystrokes
import ScreenKeyboard.Proofs.Roles
import ScreenKeyboard.Proofs.Statements
import ScreenKeyboard.Proofs.Merging
import ScreenKeyboard.Proofs.Rows
import ScreenKeyboard.Proofs.Editing
import ScreenKeyboard.Proofs.Navigation
import ScreenKeyboard.Proofs.Dictation
import ScreenKeyboard.Proofs.KeyNames
import ScreenKeyboard.Proofs.Graphemes
import ScreenKeyboard.Proofs.Capitals
import ScreenKeyboard.Proofs.Refusals
import ScreenKeyboard.Proofs.Records
import ScreenKeyboard.Proofs.Privacy
import ScreenKeyboard.Proofs.Frames
