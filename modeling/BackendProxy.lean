import BackendProxy.Lib.Bytes
import BackendProxy.Lib.Words
import BackendProxy.Lib.Peek
import BackendProxy.Lib.Ring
import BackendProxy.Lib.Runs
import BackendProxy.Lib.Prog
import BackendProxy.Lib.Tailq
import BackendProxy.Lib.Journal
import BackendProxy.Lib.Handover
import BackendProxy.Lib.History
import BackendProxy.Lib.Entries
import BackendProxy.Lib.Lines
import BackendProxy.Lib.Dlist
import BackendProxy.Device.Selector
import BackendProxy.Device.Ini
import BackendProxy.Device.IotTable
import BackendProxy.Device.IotMirror
import BackendProxy.Device.IotSessions
import BackendProxy.Queue.ShmQueue
import BackendProxy.Queue.Spinlock
import BackendProxy.Queue.Fifo
import BackendProxy.Queue.Refinement
import BackendProxy.Queue.Interleaving
import BackendProxy.Queue.Channel
import BackendProxy.Queue.Connector
import BackendProxy.Queue.Publication
import BackendProxy.Queue.PoolQueue
import BackendProxy.Queue.PoolFifo
import BackendProxy.Wire.Message
import BackendProxy.Wire.Build
import BackendProxy.Wire.Decode
import BackendProxy.Wire.Inspect
import BackendProxy.Wire.RoundTrip
import BackendProxy.Wire.Iot
import BackendProxy.Wire.Uplink
import BackendProxy.Wire.Receive
import BackendProxy.Wire.Can
import BackendProxy.Wire.Modbus
import BackendProxy.Wire.Builder
import BackendProxy.Wire.BuilderRing
import BackendProxy.Wire.BuilderBounds
import BackendProxy.Pool.Engine
import BackendProxy.Pool.Sessions
import BackendProxy.Pool.Effects
import BackendProxy.Pool.Outcomes
import BackendProxy.Pool.Registration
import BackendProxy.Pool.Deletion
import BackendProxy.Pool.Identifiers
import BackendProxy.Pool.Nodes
import BackendProxy.Pool.Streams
import BackendProxy.Pool.Backlog
import BackendProxy.Pool.Traffic
import BackendProxy.Pool.Sound
import BackendProxy.Pool.MainLoop
import BackendProxy.Pool.ActiveQueues
import BackendProxy.Pool.Forward
import BackendProxy.Pool.Backward
import BackendProxy.Pool.Ending
import BackendProxy.Pool.Extent
import BackendProxy.Pool.Agreement
import BackendProxy.Pool.Admission
import BackendProxy.Pool.Upkeep
import BackendProxy.Pool.Handshake
import BackendProxy.Pool.Shelves
import BackendProxy.Pool.Returning
import BackendProxy.Pool.World
import BackendProxy.Pool.Attempts
import BackendProxy.Pool.WorldMoves
import BackendProxy.Pool.Responses
import BackendProxy.Pool.Rollback
import BackendProxy.Pool.Lifecycle
import BackendProxy.Pool.Telling
import BackendProxy.Pool.System
import BackendProxy.Pool.SessTable
import BackendProxy.Pool.Leftovers
import BackendProxy.Pool.Consistent
import BackendProxy.Pool.Disposal
import BackendProxy.Pool.Sweep
import BackendProxy.Pool.Shutdown
import BackendProxy.Device.NetDevices
import BackendProxy.Device.NetNodes
import BackendProxy.Device.NetSetup
import BackendProxy.Config.Dictionary
import BackendProxy.Config.IniParser
import BackendProxy.Config.Load
import BackendProxy.Config.Dump
import BackendProxy.Config.IotFile
import BackendProxy.Lib.Window
import BackendProxy.Xdp.Rings
import BackendProxy.Xdp.Redirect
import BackendProxy.Xdp.Custody
import BackendProxy.Xdp.Receiver
import BackendProxy.Lib.Descriptors
import BackendProxy.Device.IotLinks
import BackendProxy.Lib.NetOrder
import BackendProxy.Wire.Endpoint
import BackendProxy.Pool.Endpoint
import BackendProxy.Pool.Netns
import BackendProxy.Wire.Gateway
import BackendProxy.Wire.Relay
import BackendProxy.Device.StartUp
