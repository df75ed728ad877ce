import ZephyrEsphome.Library.Exec
import ZephyrEsphome.Library.Base128
import ZephyrEsphome.Library.Refinement
import ZephyrEsphome.Library.Resources
import ZephyrEsphome.Kernel.Basic
import ZephyrEsphome.Kernel.Socket
import ZephyrEsphome.Kernel.Heap
import ZephyrEsphome.Rpc.Varint
import ZephyrEsphome.Kernel.Gpio
import ZephyrEsphome.Switch.Driver
import ZephyrEsphome.Switch.ShootThrough
import ZephyrEsphome.Kernel.Flash
import ZephyrEsphome.Ota.Protocol
import ZephyrEsphome.Ota.Session
import ZephyrEsphome.Ota.DataLoop
import ZephyrEsphome.Ota.Transfer
import ZephyrEsphome.Ota.LockStep
import ZephyrEsphome.Ota.Upgrade
import ZephyrEsphome.Kernel.CString
import ZephyrEsphome.Rpc.Message
import ZephyrEsphome.Rpc.Node
import ZephyrEsphome.Rpc.Frame
import ZephyrEsphome.Api.Entity
import ZephyrEsphome.Api.Handlers
import ZephyrEsphome.Rpc.Service
import ZephyrEsphome.Rpc.Writing
import ZephyrEsphome.Library.Stream
import ZephyrEsphome.Rpc.Reading
import ZephyrEsphome.Rpc.RoundTrip
import ZephyrEsphome.Rpc.Handling
import ZephyrEsphome.Rpc.TornFrames
import ZephyrEsphome.Rpc.PayloadBlocks
import ZephyrEsphome.Rpc.Release
import ZephyrEsphome.Api.Kinds
import ZephyrEsphome.Api.Gate
import ZephyrEsphome.Rpc.VarintBounds
import ZephyrEsphome.Rpc.HeaderWidth
import ZephyrEsphome.Rpc.FailedReceive
import ZephyrEsphome.Ota.Commit
import ZephyrEsphome.Ota.Failures
import ZephyrEsphome.Api.Listing
import ZephyrEsphome.Switch.Holding
import ZephyrEsphome.Api.Replies
import ZephyrEsphome.Api.SensorSocket
import ZephyrEsphome.Wifi.Credentials
import ZephyrEsphome.Wifi.Driver
import ZephyrEsphome.Wifi.Offline
import ZephyrEsphome.Switch.Interleaving
import ZephyrEsphome.Switch.Refinement
import ZephyrEsphome.Switch.Pulses
import ZephyrEsphome.Switch.Relay
import ZephyrEsphome.Api.Keys
import ZephyrEsphome.Ota.Flushed
import ZephyrEsphome.Ota.Returns
import ZephyrEsphome.Api.Readings
import ZephyrEsphome.Library.Cycle
import ZephyrEsphome.Wifi.RoundRobin
import ZephyrEsphome.Wifi.Requests
import ZephyrEsphome.Api.SimilarNames
import ZephyrEsphome.Rpc.Canonical
import ZephyrEsphome.Rpc.TwoPasses
import ZephyrEsphome.Kernel.Buffer
import ZephyrEsphome.OpenThread.Srp
import ZephyrEsphome.OpenThread.Names
import ZephyrEsphome.OpenThread.Entries
import ZephyrEsphome.Library.Folding
import ZephyrEsphome.Library.Transition
import ZephyrEsphome.Library.Framing
import ZephyrEsphome.Rpc.Conversation
import ZephyrEsphome.Api.Server
import ZephyrEsphome.Ota.Calls
import ZephyrEsphome.Ota.Slot
import ZephyrEsphome.Rpc.HeapUse
import ZephyrEsphome.Rpc.Wire
import ZephyrEsphome.Wifi.Retries
import ZephyrEsphome.Rpc.Writers
import ZephyrEsphome.Rpc.Peer
import ZephyrEsphome.Switch.Boot
import ZephyrEsphome.OpenThread.Announcing
import ZephyrEsphome.Api.Defined
import ZephyrEsphome.Api.Pressure
import ZephyrEsphome.Kernel.Network
import ZephyrEsphome.Services.Setup
import ZephyrEsphome.Services.Threads
import ZephyrEsphome.Services.Lifetime
import ZephyrEsphome.Api.LastCommand
import ZephyrEsphome.Api.Startup
import ZephyrEsphome.Api.Undisturbed
import ZephyrEsphome.Api.Observed
