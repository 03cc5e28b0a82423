import DirectChat.Auth.Password
import DirectChat.Auth.SigningKey
import DirectChat.Auth.Token
import DirectChat.Http.Header
import DirectChat.Main
import DirectChat.Message.Event
import DirectChat.Message.Frame
import DirectChat.Message.Voice
import DirectChat.Session.FanOut
import DirectChat.Socket.Hub
import DirectChat.Proofs.Auth.Password
import DirectChat.Proofs.Auth.Token
import DirectChat.Proofs.Chat.Addresses
import DirectChat.Proofs.Chat.Arrivals
import DirectChat.Proofs.Chat.Causes
import DirectChat.Proofs.Chat.Confinement
import DirectChat.Proofs.Chat.Convergence
import DirectChat.Proofs.Chat.Coupling
import DirectChat.Proofs.Chat.Crowd
import DirectChat.Proofs.Chat.Edges
import DirectChat.Proofs.Chat.Hints
import DirectChat.Proofs.Chat.Isolation
import DirectChat.Proofs.Chat.Joining
import DirectChat.Proofs.Chat.Live
import DirectChat.Proofs.Chat.Notices
import DirectChat.Proofs.Chat.Order
import DirectChat.Proofs.Chat.Parts
import DirectChat.Proofs.Chat.Receipts
import DirectChat.Proofs.Chat.Refusals
import DirectChat.Proofs.Chat.RoomLog
import DirectChat.Proofs.Chat.Teardown
import DirectChat.Proofs.Chat.Traffic
import DirectChat.Proofs.Chat.Whereabouts
import DirectChat.Proofs.Http.Access
import DirectChat.Proofs.Http.Accounts
import DirectChat.Proofs.Json.Record
import DirectChat.Proofs.Json.RoundTrip
import DirectChat.Proofs.Message.Reply
import DirectChat.Proofs.Run
import DirectChat.Proofs.Session.Delivery
import DirectChat.Proofs.Session.Presence
import DirectChat.Proofs.Session.Refinement
import DirectChat.Proofs.Session.Roster
import DirectChat.Proofs.Session.Views
import DirectChat.Proofs.Store.Alike
import DirectChat.Proofs.Store.Built
import DirectChat.Proofs.Store.Company
import DirectChat.Proofs.Store.DirectRooms
import DirectChat.Proofs.Store.Log
import DirectChat.Proofs.Store.Places
import DirectChat.Proofs.Store.RoomList
import DirectChat.Proofs.Store.Seen
import DirectChat.Proofs.Table
import DirectChat.Proofs.Text.Base64
import DirectChat.Proofs.Text.Integer
import DirectChat.Proofs.Json.Reading
import DirectChat.Proofs.Message.Event
import DirectChat.Proofs.Store.Replies
import DirectChat.Proofs.Chat.Replies
import DirectChat.Proofs.Chat.Echo
import DirectChat.Proofs.Socket.Sockets
import DirectChat.Proofs.Socket.Sessions
import DirectChat.Proofs.Socket.Lifetime
import DirectChat.Proofs.Socket.Pulse
import DirectChat.Proofs.Socket.Silence
import DirectChat.Proofs.Session.FanOut
import DirectChat.Proofs.Store.Reached
import DirectChat.Proofs.Chat.NewMessages
import DirectChat.Proofs.Http.PhotoFiles
import DirectChat.Proofs.Message.Frame
import DirectChat.Proofs.Store.RoomList
import DirectChat.Proofs.Text.Path
import DirectChat.Proofs.Config.CommandLine
import DirectChat.Proofs.Config.Variables
import DirectChat.Proofs.Config.Values
import DirectChat.Proofs.Config.Layers
