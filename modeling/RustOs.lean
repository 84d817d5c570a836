import RustOs.Lib.Reach
import RustOs.Lib.Words
import RustOs.Lib.FirstFit
import RustOs.BitmapAlloc.Basic
import RustOs.BitmapAlloc.Spec
import RustOs.BitmapAlloc.Invariant
import RustOs.Memory.Address
import RustOs.Memory.Physical
import RustOs.Memory.PageTable.Entry
import RustOs.Memory.PageTable.Ops
import RustOs.Memory.PageTable.Tree
import RustOs.Memory.PageTable.Update
import RustOs.Memory.PageTable.Walk
import RustOs.Memory.PageTable.Edit
import RustOs.Memory.PageTable.Refinement
import RustOs.Sched.Basic
import RustOs.Sched.Queue
import RustOs.Sched.Invariant
import RustOs.Sched.Run
import RustOs.Virtio.Ops
import RustOs.Virtio.Wrap
import RustOs.Virtio.Chains
import RustOs.Virtio.Layout
import RustOs.Virtio.Fifo
import RustOs.Sched.Sleep
import RustOs.Sync.Mutex
import RustOs.Sync.Wait
import RustOs.Ext2.Layout
import RustOs.Ext2.FileSystem
import RustOs.Ext2.Directory
import RustOs.Ext2.Create
import RustOs.Ext2.Vfs
import RustOs.Ext2.FileData
import RustOs.Ext2.Mount
import RustOs.Ext2.InodeTable
import RustOs.Memory.PageTable.Huge
import RustOs.BitmapAlloc.Bootstrap
import RustOs.Elf
import RustOs.Memory.Mapping
import RustOs.Sched.Userspace
import RustOs.RingBuffer
import RustOs.Graphics.TextBuffer
import RustOs.Sysfs
import RustOs.Tick
import RustOs.Virtio.Block
import RustOs.Pci.Device
import RustOs.Virtio.Config
import RustOs.Lib.Text
import RustOs.Vfs.Path
import RustOs.Lib.X86
import RustOs.Sched.Switch
import RustOs.Sched.Stack
import RustOs.Sched.Kernel
import RustOs.Sched.Syscall
import RustOs.Sched.SyscallStep
import RustOs.Sched.Swapgs
import RustOs.Shell.Parse
import RustOs.Shell.Loop
import RustOs.Shell.Prime
